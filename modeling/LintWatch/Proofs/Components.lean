import LintWatch.Schedule.Cost

/-! Paths compared by their components. The component order is a lawful total order, so
maps keyed by components behave as maps; and a file's class and cost depend on the
components of its path only, never on how the path is spelled. -/
namespace LintWatch.Path

deriving instance ReflBEq, LawfulBEq for Component

theorem Component.compareIsLex :
    Component.compare = compareLex (compareOn Component.rank) (compareOn Component.label) := by
  funext a b
  cases a <;> cases b <;> rfl

theorem Component.eqOfRankLabel {a b : Component} (rank : a.rank = b.rank)
    (label : a.label = b.label) : a = b := by
  cases a <;> cases b <;> simp_all [Component.rank,Component.label]

instance : Std.TransOrd Component := by
  change Std.TransCmp Component.compare
  rw [Component.compareIsLex]
  infer_instance

instance : Std.LawfulEqOrd Component where
  compare_self {a} := by
    change Component.compare a a = .eq
    rw [Component.compareIsLex]
    exact Std.ReflCmp.compare_self
  eq_of_compare {a b} h := by
    change Component.compare a b = .eq at h
    simp only [Component.compareIsLex,compareLex,compareOn,Ordering.then_eq_eq] at h
    exact Component.eqOfRankLabel (Std.LawfulEqOrd.eq_of_compare h.1)
      (Std.LawfulEqOrd.eq_of_compare h.2)

theorem extensionOfSameComponents {p q : String} (same : components p = components q) :
    extension? p = extension? q := by
  simp only [extension?,fileName?,same]

end LintWatch.Path

namespace LintWatch.Schedule

theorem FileClass.ofPathOfSameComponents {p q : String} (same : Path.components p = Path.components q) :
    FileClass.ofPath p = FileClass.ofPath q := by
  simp only [FileClass.ofPath,Path.extensionOfSameComponents same]

theorem costOfSameComponents {p q : String} (same : Path.components p = Path.components q)
    (size : Nat) : estimateCostMs p size = estimateCostMs q size := by
  simp only [estimateCostMs,FileClass.ofPathOfSameComponents same]

end LintWatch.Schedule
