import LintWatch.Api.Fields
import LintWatch.FileSystem

/-! The directory that requests touching files work in, and the files a request lays out in
it before it runs. A path in a request is read below that directory unless it is absolute,
and a path in an answer is shown below it when it lies there. -/
namespace LintWatch.Api

/-- The working directory of requests that touch files. -/
def scratchRoot : String := "/tmp/sentinel-1/root"

/-- A tree holding only the working directory, which is also the current directory. -/
def freshTree : FileSystem :=
  match ({} : FileSystem).createDirAll scratchRoot with
  | .ok fs => { fs with cwd := scratchRoot }
  | .error _ => { cwd := scratchRoot }

/-- A path of a request. -/
def requestPath (p : String) : String := Path.join scratchRoot p

/-- A path of an answer. -/
def shownPath (p : String) : String := Path.relativeTo scratchRoot p

/-- A failed file operation refuses the request. -/
def liftIo (r : Except IoError α) : Decode α := r.mapError fun _ => .failed .io

/-- The bytes of a file: a string of text, or an object with `hex` bytes, `content` text or
the `size` of a run of zero bytes. -/
def fileContent (spec : Json) : Decode Content :=
  match spec with
  | .str s => .ok (.bytes s.toUTF8)
  | spec =>
    match member? spec "hex", member? spec "content", member? spec "size" with
    | some (.str h), _, _ => .bytes <$> hexBytes h
    | _, some (.str s), _ => .ok (.bytes s.toUTF8)
    | _, _, some v => match asU64? v with
      | some n => .ok (.zeros n)
      | none => bad "field size is not a u64"
    | _, _, _ => bad "bad file spec"

/-- Lays out the files of a request, in the order of their paths. -/
def layOut (fs : FileSystem) (files : List (String × Json)) : Decode FileSystem :=
  (files.mergeSort fun a b => a.1 ≤ b.1).foldlM (fun fs (p, spec) => do
    let content ← fileContent spec
    liftIo (fs.writeFileAll (requestPath p) content)) fs

/-- The tree of a request: the working directory with the request's `files`. -/
def requestTree (j : Json) : Decode FileSystem :=
  match member? j "files" with
  | some (.obj files) => layOut freshTree files
  | _ => .ok freshTree

end LintWatch.Api
