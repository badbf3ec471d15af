import LintWatch.Api.Watch
import LintWatch.Watch.Detector

/-! Requests that drive a change detector over the working directory: the initial scan,
the watcher started and stopped, operations on the files, and batches taken from the
pending set. -/
namespace LintWatch.Api

open Schedule Watch

/-- The state of a detector request: the tree, the detector, and the paths to dump. -/
structure DetectorRun where
  tree : FileSystem
  detector : Detector
  named : List String

namespace DetectorRun

def dump (r : DetectorRun) : List Entry :=
  let found := r.named.filterMap r.detector.pending.get?
  let unique := found.foldl (fun acc e => if acc.any (·.path == e.path) then acc else e :: acc) []
  unique.mergeSort fun a b => shownPath a.path ≤ shownPath b.path

/-- The tree after an operation on the files, with the detector told of its notices. -/
def apply (r : DetectorRun) (tree : FileSystem) (events : List Event) : DetectorRun :=
  { r with tree, detector := r.detector.observe tree events 0 0 }

def watched (r : DetectorRun) (path : String) : String := (r.tree.locate path).1

def step (r : DetectorRun) (step : Json) : Decode (List Field × DetectorRun) := do
  match ← stringOr step "op" "" with
  | "initial_scan" =>
    let (n, detector) := r.detector.initialScan r.tree 0 0
    .ok ([("queued", .ofNat n)], { r with detector })
  | "start" => .ok ([], { r with detector := ← lift (r.detector.start inotify r.tree) })
  | "stop" => .ok ([], { r with detector := r.detector.stop })
  | "write" =>
    let path := requestPath (← string step "path")
    let content ← match member? step "file" with
      | some spec => fileContent spec
      | none => bad "missing file"
    let existed := r.tree.isFile path
    let tree ← liftIo (r.tree.writeFileAll path content)
    .ok ([], r.apply tree (writeNotices existed (r.watched path) content))
  | "mkdir" =>
    let path := requestPath (← string step "path")
    let tree ← liftIo (r.tree.createDirAll path)
    .ok ([], r.apply tree (mkdirNotices (r.watched path)))
  | "delete" =>
    let path := requestPath (← string step "path")
    match r.tree.removeFile path with
    | .ok tree => .ok ([("ok", .bool true)], r.apply tree (removeNotices (r.watched path)))
    | .error _ => .ok ([("ok", .bool false)], r)
  | "rename" =>
    let source := requestPath (← string step "from")
    let target := requestPath (← string step "to")
    match r.tree.rename source target with
    | .ok tree =>
      .ok ([("ok", .bool true)], r.apply tree (renameNotices (r.watched source) (r.watched target)))
    | .error _ => .ok ([("ok", .bool false)], r)
  | "take_batch" =>
    let (taken, pending) := r.detector.pending.takeBatch (← natOr step "max" 0) 0
    .ok ([("result", .arr (taken.map (entryJson · false)))],
      { r with detector := { r.detector with pending } })
  | "dump" | "settle" => .ok ([("result", .arr (r.dump.map (entryJson · false)))], r)
  | other => bad s!"unknown detector step {other}"

/-- The fields a step answers besides its own: whether the detector watches and, unless
the step touched the files or stopped the watcher, how many changes wait. -/
def always (r : DetectorRun) (op : String) : List Field :=
  let quiet := ["write", "delete", "rename", "mkdir", "stop"].contains op
  [("watching", .bool r.detector.watching)] ++
    (if quiet then [] else [("pending", .ofNat r.detector.pending.size)])

end DetectorRun

def runDetectorSteps : DetectorRun → List Json → List Json
  | _, [] => []
  | r, step :: rest =>
    let op := match member? step "op" with
      | some (.str s) => s
      | _ => ""
    let (fields, r) := match r.step step with
      | .ok result => result
      | .error rejection => (match rejection.answer with
        | .obj fs => fs
        | _ => [], r)
    .obj (fields ++ r.always op) :: runDetectorSteps r rest

def answerDetector (j : Json) : Decode Json := do
  let watch ← sectionOr j "watch" {} WatchConfig.ofJson
  let filter ← lift (Filter.new watch)
  let (_, pending) ← requestPendingSet j
  let tree ← requestTree j
  let steps ← listOr j "steps"
  let present := tree.nodes.toList.filterMap fun (k, n) => match n with
    | .file _ => some k
    | .directory => none
  let named := steps.flatMap fun step =>
    ["path", "from", "to"].filterMap fun key => match member? step key with
      | some (.str p) => some (requestPath p)
      | _ => none
  let run : DetectorRun := { tree, detector := { root := scratchRoot, filter, pending }, named := present ++ named }
  .ok (.obj [("steps", .arr (runDetectorSteps run steps)), ("shutdown", .bool false)])

end LintWatch.Api
