import LintWatch.Change
import LintWatch.Watch.Filter

/-! File-system notifications and the changes they stand for. A creation or a move into the
tree adds paths, a write changes them, a removal or a move out of the tree removes them, and
a rename with both ends removes the old path and adds the new one. Changes of metadata only,
reads and notices of no known kind stand for nothing. A change is kept only when the filter
admits its path and, unless it is a removal, the path is a file. -/
namespace LintWatch.Watch

/-- What a notification reports. -/
inductive Notice where
  | created
  | written
  | metadataChanged
  /-- Renamed within the tree: the old path, then the new one. -/
  | renamed
  | movedOut
  | movedIn
  | removed
  /-- A read, or a notice of no known kind. -/
  | unrelated
  deriving Repr, BEq, DecidableEq, Inhabited

/-- A notification about some paths. -/
structure Event where
  notice : Notice
  paths : List String
  deriving Repr, Inhabited

/-- The changes a notification stands for, before filtering. -/
def Event.changes (e : Event) : List (String × ChangeKind) :=
  let tag (kind : ChangeKind) := e.paths.map fun p => (p, kind)
  match e.notice with
  | .created => tag .added
  | .renamed =>
    match e.paths with
    | old :: new :: _ => [(old, .removed), (new, .added)]
    | [old] => [(old, .removed)]
    | [] => []
  | .movedOut => tag .removed
  | .movedIn => tag .added
  | .metadataChanged => []
  | .written => tag .modified
  | .removed => tag .removed
  | .unrelated => []

/-- The changes that pass the filter, seen at `detectedMs`; `isFile` tells which paths are
files. -/
def Event.admitted (e : Event) (f : Filter) (isFile : String → Bool) (detectedMs : Nat) :
    List Change :=
  (e.changes.filter fun (p, kind) => (kind == .removed || isFile p) && f.admits p).map
    fun (p, kind) => ⟨p, kind, detectedMs⟩

end LintWatch.Watch
