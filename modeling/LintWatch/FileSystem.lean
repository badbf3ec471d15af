import Std.Data.TreeMap
import LintWatch.Path

/-! A tree of directories and files held in memory: what the watch reads and what its
callers write. Every node is named by its absolute path with `.` and `..` worked out
(`/a/b`, and `/` for the top); a relative path is read from the working directory. A path
written with a trailing slash names a directory only. A file holds bytes, or a run of zero
bytes of a given length, as a sparse file does. -/
namespace LintWatch

/-- The bytes of a file. -/
inductive Content where
  | bytes (data : ByteArray)
  | zeros (size : Nat)
  deriving Inhabited

namespace Content

def size : Content → Nat
  | .bytes data => data.size
  | .zeros n => n

def toBytes : Content → ByteArray
  | .bytes data => data
  | .zeros n => ⟨Array.replicate n 0⟩

end Content

/-- A directory or a file. -/
inductive Node where
  | directory
  | file (content : Content)
  deriving Inhabited

/-- Whether two nodes hold the same: both directories, or files of equal bytes. -/
def Node.same : Node → Node → Bool
  | .directory, .directory => true
  | .file a, .file b => a.toBytes.data == b.toBytes.data
  | _, _ => false

/-- Why an operation on the tree failed. -/
inductive IoError where
  | notFound
  | notADirectory
  | isADirectory
  | alreadyExists
  | directoryNotEmpty
  deriving Repr, BEq, DecidableEq, Inhabited

/-- The length a directory reports as its size. -/
def directorySize : Nat := 4096

/-- The nodes, by absolute path, and the directory relative paths are read from. -/
structure FileSystem where
  nodes : Std.TreeMap String Node := (∅ : Std.TreeMap String Node).insert "/" .directory
  cwd : String := "/"
  deriving Inhabited

namespace FileSystem

/-- The names along an absolute path, `..` going up one (never above the top). -/
def names (cwd path : String) : List String :=
  let start := if Path.isAbsolute path then [] else (Path.components cwd).filterMap fun
    | .normal n => some n
    | _ => none
  ((Path.components path).foldl (fun acc c => match c with
    | .normal n => n :: acc
    | .parent => acc.drop 1
    | _ => acc) start.reverse).reverse

def keyOf (ns : List String) : String := "/" ++ "/".intercalate ns

/-- The key of a path, and whether its text asks for a directory. -/
def locate (fs : FileSystem) (path : String) : String × Bool :=
  (keyOf (names fs.cwd path), path.endsWith "/" || path.endsWith "/." || path.endsWith "/.." ||
    path == "." || path == "..")

def node? (fs : FileSystem) (path : String) : Option Node :=
  let (key, dirOnly) := fs.locate path
  match fs.nodes[key]? with
  | some .directory => some .directory
  | some (.file c) => if dirOnly then none else some (.file c)
  | none => none

def present (fs : FileSystem) (path : String) : Bool := (fs.node? path).isSome

def isFile (fs : FileSystem) (path : String) : Bool :=
  match fs.node? path with
  | some (.file _) => true
  | _ => false

def isDirectory (fs : FileSystem) (path : String) : Bool :=
  match fs.node? path with
  | some .directory => true
  | _ => false

/-- The size of the node at a path. -/
def size? (fs : FileSystem) (path : String) : Option Nat :=
  match fs.node? path with
  | some (.file c) => some c.size
  | some .directory => some directorySize
  | none => none

/-- Why a path cannot be reached: a missing node, or a file standing where a directory
is needed. -/
def failureAt (fs : FileSystem) (path : String) : IoError :=
  let (key, dirOnly) := fs.locate path
  let ns := names fs.cwd path
  let blocked := (List.range ns.length).any fun i =>
    match fs.nodes[keyOf (ns.take i)]? with
    | some (.file _) => true
    | _ => false
  if blocked then .notADirectory
  else match fs.nodes[key]? with
    | some (.file _) => if dirOnly then .notADirectory else .notFound
    | _ => .notFound

def read (fs : FileSystem) (path : String) : Except IoError ByteArray :=
  match fs.node? path with
  | some (.file c) => .ok c.toBytes
  | some .directory => .error .isADirectory
  | none => .error (fs.failureAt path)

/-- The absolute path a path names, resolved one name at a time: every directory on the
way must exist, so `..` after a missing name fails, and the node named must exist too. -/
def canonicalize? (fs : FileSystem) (path : String) : Option String := do
  let start := if Path.isAbsolute path then [] else names "/" fs.cwd
  let step (acc : Option (List String)) (c : Path.Component) : Option (List String) := do
    let ns ← acc
    match fs.nodes[keyOf ns]? with
    | some .directory =>
      match c with
      | .normal n => some (ns ++ [n])
      | .parent => some ns.dropLast
      | _ => some ns
    | _ => none
  let ns ← (Path.components path).foldl step (some start)
  match fs.nodes[keyOf ns]?, (fs.locate path).2 with
  | some .directory, _ => some (keyOf ns)
  | some (.file _), false => some (keyOf ns)
  | _, _ => none

/-- The key of the directory that holds a key. -/
def parentKey (key : String) : String :=
  keyOf ((names "/" key).dropLast)

/-- Makes a directory and every missing directory above it. -/
def createDirAll (fs : FileSystem) (path : String) : Except IoError FileSystem :=
  let ns := names fs.cwd path
  (List.range (ns.length + 1)).foldlM (fun fs i =>
    let key := keyOf (ns.take i)
    match fs.nodes[key]? with
    | some .directory => .ok fs
    | some (.file _) => if i == ns.length then .error .alreadyExists else .error .notADirectory
    | none => .ok { fs with nodes := fs.nodes.insert key .directory }) fs

/-- Makes one directory below an existing one. -/
def createDir (fs : FileSystem) (path : String) : Except IoError FileSystem :=
  let (key, _) := fs.locate path
  match fs.nodes[key]? with
  | some _ => .error .alreadyExists
  | none =>
    match fs.nodes[parentKey key]? with
    | some .directory => .ok { fs with nodes := fs.nodes.insert key .directory }
    | _ => .error (fs.failureAt path)

/-- Writes a file, replacing any file of that path; the directory above must exist. -/
def writeFile (fs : FileSystem) (path : String) (content : Content) : Except IoError FileSystem :=
  let (key, dirOnly) := fs.locate path
  match fs.nodes[key]? with
  | some .directory => .error .isADirectory
  | _ =>
    if dirOnly then .error .isADirectory
    else match fs.nodes[parentKey key]? with
      | some .directory => .ok { fs with nodes := fs.nodes.insert key (.file content) }
      | _ => .error (fs.failureAt (parentKey key))

/-- Writes a file after making the directories above it. -/
def writeFileAll (fs : FileSystem) (path : String) (content : Content) :
    Except IoError FileSystem := do
  let (key, _) := fs.locate path
  let fs ← fs.createDirAll (parentKey key)
  fs.writeFile path content

def removeFile (fs : FileSystem) (path : String) : Except IoError FileSystem :=
  let (key, _) := fs.locate path
  match fs.node? path with
  | some (.file _) => .ok { fs with nodes := fs.nodes.erase key }
  | some .directory => .error .isADirectory
  | none => .error (fs.failureAt path)

/-- Whether `key` lies strictly below the directory `dir`. -/
def isBelow (dir key : String) : Bool :=
  if dir == "/" then key != "/" else key.startsWith (dir ++ "/")

/-- Removes a directory and everything below it. -/
def removeDirAll (fs : FileSystem) (path : String) : Except IoError FileSystem :=
  let (key, _) := fs.locate path
  match fs.node? path with
  | some .directory =>
    .ok { fs with nodes := fs.nodes.filter fun k _ => k != key && !isBelow key k }
  | some (.file _) => .error .notADirectory
  | none => .error (fs.failureAt path)

/-- Every node at or below `a` moved to the same place below `b`. -/
def moveTree (fs : FileSystem) (a b : String) : FileSystem :=
  let moved := fs.nodes.toList.filterMap fun (k, n) =>
    if k == a then some (b, n)
    else if isBelow a k then some (b ++ String.ofList (k.toList.drop a.length), n)
    else none
  let kept := fs.nodes.filter fun k _ => k != a && !isBelow a k
  { fs with nodes := moved.foldl (fun m (k, n) => m.insert k n) kept }

/-- Moves a node, with everything below it, to a new path. A file replaces a file there; a
directory replaces an empty directory there. -/
def rename (fs : FileSystem) (source target : String) : Except IoError FileSystem :=
  let (origin, _) := fs.locate source
  let (dest, _) := fs.locate target
  match fs.node? source with
  | none => .error (fs.failureAt source)
  | some node =>
    if origin == dest then .ok fs
    else
      let parentOk := match fs.nodes[parentKey dest]? with
        | some .directory => true
        | _ => false
      if !parentOk then .error (fs.failureAt (parentKey dest))
      else match node, fs.nodes[dest]? with
        | .file _, some .directory => .error .isADirectory
        | .directory, some (.file _) => .error .notADirectory
        | .directory, some .directory =>
          if fs.nodes.keys.any (isBelow dest) then .error .directoryNotEmpty
          else if isBelow origin dest then .error .notFound
          else .ok (fs.moveTree origin dest)
        | .directory, none =>
          if isBelow origin dest then .error .notFound else .ok (fs.moveTree origin dest)
        | .file c, _ => .ok { fs with nodes := (fs.nodes.erase origin).insert dest (.file c) }

/-- The names and nodes directly inside a directory, by name. -/
def children (fs : FileSystem) (dir : String) : List (String × Node) :=
  let (key, _) := fs.locate dir
  let prefixText := if key == "/" then "/" else key ++ "/"
  fs.nodes.toList.filterMap fun (k, n) =>
    if k.startsWith prefixText && k != key then
      let rest := String.ofList (k.toList.drop prefixText.length)
      if rest.contains '/' then none else some (rest, n)
    else none

/-- The nodes of `after` that `before` lacks or holds otherwise, by path, so that every
directory comes before what it holds. -/
def changes (before after : FileSystem) : List (String × Node) :=
  after.nodes.toList.filter fun (k, n) =>
    match before.nodes[k]? with
    | some m => !m.same n
    | none => true

end FileSystem

end LintWatch
