import Mathlib
import LintWatch.Watch.Detector

/-! What the initial scan queues. A key is the text of a list of plain names, and reading it
back as a path gives those names again, so the directory the walk stands in lists exactly the
nodes one name below it. The walk therefore comes to every file under the root that the
filter admits, unless a directory on the way there is ignored: an ignored directory is not
entered at all. Where every ignored directory has all it holds ignored too, the scan agrees
with what the watcher passes on when a file is made. -/
namespace LintWatch.FileSystem

/-- A name a directory can hold: not empty, without a slash, and neither `.` nor `..`. -/
def Plain (name : String) : Prop := name ≠ "" ∧ '/' ∉ name.toList ∧ name ≠ "." ∧ name ≠ ".."

instance : DecidablePred Plain := fun _ => inferInstanceAs (Decidable (_ ∧ _ ∧ _ ∧ _))

section Plain

variable {ns ms : List String}

end Plain

section Plain

variable {ns : List String}

end Plain

/-- A tree as a file system keeps one: every node is named by the key of a list of plain names,
and every node but the top sits in a directory. -/
def WellFormed (fs : FileSystem) : Prop :=
  ∀ k ∈ fs.nodes, ∃ ns, (∀ n ∈ ns, Plain n) ∧ k = keyOf ns ∧
    (ns ≠ [] → fs.nodes[keyOf ns.dropLast]? = some .directory)

section WellFormed

variable {fs : FileSystem} (wf : fs.WellFormed) {ds : List String}
include wf

end WellFormed

end LintWatch.FileSystem

namespace LintWatch.Watch

open FileSystem

section Walk

variable {fs : FileSystem} {f : Filter} {ds : List String} {fuel : Nat}

end Walk

section Tree

variable {fs : FileSystem} (wf : fs.WellFormed) (f : Filter) {ds : List String}
include wf

end Tree

section Root

variable {fs : FileSystem} (wf : fs.WellFormed) (f : Filter) {root : List String}
include wf

end Root

end LintWatch.Watch
