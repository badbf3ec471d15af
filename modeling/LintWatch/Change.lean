/-! Changes to files: what happened to which path, and when it was seen. A rename is seen as
the removal of the old path and the addition of the new one. -/
namespace LintWatch

inductive ChangeKind where
  | added
  | modified
  | removed
  deriving Repr, BEq, DecidableEq, Inhabited

namespace ChangeKind

def label : ChangeKind → String
  | .added => "Added"
  | .modified => "Modified"
  | .removed => "Removed"

def ofLabel? : String → Option ChangeKind
  | "Added" => some .added
  | "Modified" => some .modified
  | "Removed" => some .removed
  | _ => none

end ChangeKind

/-- One observed change; `detectedMs` is the time it was seen, in milliseconds since the
Unix epoch. -/
structure Change where
  path : String
  kind : ChangeKind
  detectedMs : Nat := 0
  deriving Repr, BEq, DecidableEq, Inhabited

end LintWatch
