import Mathlib
import LintWatch.Metrics.Aggregator

/-! The totals of a session do not depend on the order in which validations finish.
Counting one result is an update that commutes with counting another, and the totals after
any run are the plain counts and sums over the results recorded. The window of recent
results keeps the newest ones, up to its capacity, and answers them newest first. -/
namespace LintWatch.Metrics

deriving instance ReflBEq, LawfulBEq for Severity

/-- Every violation of the results, in order. -/
def allViolations (rs : List ValidationResult) : List Violation := rs.flatMap (·.violations)

/-- What a list of results adds up to: one file each, the clean ones, their violations by
severity, and their times. -/
def Counters.tally (rs : List ValidationResult) : Counters where
  filesChanged := rs.length
  violationsDetected := (allViolations rs).length
  criticalViolations := (allViolations rs).countP (·.severity == .critical)
  warnings := (allViolations rs).countP (·.severity == .warning)
  infoViolations := (allViolations rs).countP (·.severity == .info)
  suggestions := (allViolations rs).countP (·.severity == .suggestion)
  cleanFiles := rs.countP (·.isClean)
  totalProcessingMs := (rs.map (·.processingMs)).sum

theorem ValidationResult.countAsCountP (r : ValidationResult) (s : Severity) :
    r.count s = r.violations.countP (·.severity == s) :=
  (List.countP_eq_length_filter ..).symm

namespace Counters

theorem applyComm (c : Counters) (r r' : ValidationResult) :
    (c.apply r).apply r' = (c.apply r').apply r := by
  simp [apply,Nat.add_right_comm]

theorem applyTally (rs : List ValidationResult) (r : ValidationResult) :
    (tally rs).apply r = tally (rs ++ [r]) := by
  simp only [apply,tally,allViolations,List.flatMap_append,List.flatMap_singleton,List.length_append,
    List.countP_append,List.map_append,List.sum_append,List.countP_singleton,List.map_cons,List.map_nil,
    List.sum_cons,List.sum_nil,ValidationResult.countAsCountP,List.length_singleton,
    Nat.add_zero]

theorem applyAllTally (pre rs : List ValidationResult) :
    rs.foldl apply (tally pre) = tally (pre ++ rs) := by
  induction rs generalizing pre with
  | nil => rw [List.append_nil]; rfl
  | cons r rest ih => rw [List.foldl_cons,applyTally,ih,List.append_assoc,List.singleton_append]

theorem tallyNil : tally [] = {} := rfl

theorem severitiesCover (vs : List Violation) :
    vs.length = vs.countP (·.severity == .critical) + vs.countP (·.severity == .warning) +
      vs.countP (·.severity == .info) + vs.countP (·.severity == .suggestion) := by
  induction vs with
  | nil => rfl
  | cons v rest ih =>
    cases h : v.severity <;> simp [h] <;> omega

theorem tallyTotal (rs : List ValidationResult) :
    (tally rs).violationsDetected = (tally rs).criticalViolations + (tally rs).warnings +
      (tally rs).infoViolations + (tally rs).suggestions :=
  severitiesCover (allViolations rs)

end Counters

namespace Ring

variable {α : Type} (r : Ring α) (x : α)

@[simp] theorem pushCapacity : (r.push x).2.capacity = r.capacity := by
  unfold push
  split
  · split <;> rfl
  · rfl

theorem pushNewest (fits : r.items.length ≤ r.capacity) (pos : 0 < r.capacity) :
    (r.push x).2.items.reverse = (x :: r.items.reverse).take r.capacity := by
  unfold push
  split
  · rename_i oldest rest shape
    rw [shape,List.length_cons] at fits
    split
    · rename_i full
      rw [shape,List.length_cons] at full
      -- a full ring drops the oldest item, the last of the newest-first view
      have exact : r.capacity = rest.length + 1 := by omega
      simp [exact,shape]
    · rename_i room
      rw [shape,List.length_cons] at room
      rw [List.take_of_length_le (by simp [shape]; omega)]
      simp [shape]
  · rename_i empty
    simp [empty,List.take_of_length_le (show [x].length ≤ r.capacity by simp; omega)]

theorem pushFits (fits : r.items.length ≤ r.capacity) (pos : 0 < r.capacity) :
    (r.push x).2.items.length ≤ (r.push x).2.capacity := by
  have view := congrArg List.length (pushNewest r x fits pos)
  rw [List.length_reverse,List.length_take] at view
  rw [pushCapacity,view]
  exact Nat.min_le_left _ _

theorem pushAllNewest (xs : List α) (fits : r.items.length ≤ r.capacity) (pos : 0 < r.capacity) :
    (xs.foldl (fun r x => (r.push x).2) r).items.reverse = (xs.reverse ++ r.items.reverse).take r.capacity := by
  induction xs generalizing r with
  | nil => simp [List.take_of_length_le (show r.items.reverse.length ≤ r.capacity by simpa using fits)]
  | cons y ys ih =>
    rw [List.foldl_cons,ih _ (pushFits r y fits pos) (by rw [pushCapacity]; exact pos),pushNewest r y fits pos,
      pushCapacity]
    simp only [List.reverse_cons,List.append_assoc,List.singleton_append,List.take_append,List.take_take,
      Nat.min_eq_left (Nat.sub_le _ _)]

end Ring

namespace Aggregator

theorem recordAllCounters (a : Aggregator) (rs : List ValidationResult) :
    (rs.foldl record a).counters = rs.foldl Counters.apply a.counters := by
  induction rs generalizing a with
  | nil => rfl
  | cons r rest ih => exact ih (a.record r)

theorem recordAllRecent (a : Aggregator) (rs : List ValidationResult) :
    (rs.foldl record a).recent = rs.foldl (fun r x => (r.push x).2) a.recent := by
  induction rs generalizing a with
  | nil => rfl
  | cons r rest ih => exact ih (a.record r)

theorem recordAllNewest (cap n : Nat) (rs : List ValidationResult) :
    (rs.foldl record (new cap)).newest n = rs.reverse.take (min n (max cap 1)) := by
  have view : (rs.foldl record (new cap)).recent.items.reverse = rs.reverse.take (max cap 1) := by
    rw [recordAllRecent]
    exact (Ring.pushAllNewest (Ring.new cap) rs (Nat.zero_le _)
      (Nat.lt_of_lt_of_le Nat.zero_lt_one (Nat.le_max_right _ _))).trans (by simp [Ring.new])
  rw [newest,Ring.newest,view,List.take_take,Nat.min_comm]

end Aggregator

/-- Recording results into a fresh aggregator gives the same counters in every order: the
plain counts and sums over the results, with the violations split by severity. The recent
window answers the last results recorded, newest first, as many as asked for and the
capacity allows. -/
theorem aggregatorOrderFree (cap : Nat) {rs rs' : List ValidationResult} (perm : rs.Perm rs') (n : Nat) :
    let a := rs.foldl Aggregator.record (Aggregator.new cap)
    a.counters = (rs'.foldl Aggregator.record (Aggregator.new cap)).counters ∧
    a.counters = Counters.tally rs ∧
    a.counters.violationsDetected =
      a.counters.criticalViolations + a.counters.warnings + a.counters.infoViolations +
        a.counters.suggestions ∧
    a.newest n = (rs.drop (rs.length - min n (min (max cap 1) rs.length))).reverse := by
  intro a
  have initial : (Aggregator.new cap).counters = Counters.tally [] := rfl
  have tallied : a.counters = Counters.tally rs := by
    rw [Aggregator.recordAllCounters,initial,Counters.applyAllTally,List.nil_append]
  refine ⟨?_,tallied,?_,?_⟩
  · calc a.counters = rs.foldl Counters.apply (Counters.tally []) := by rw [Aggregator.recordAllCounters,initial]
      _ = rs'.foldl Counters.apply (Counters.tally []) :=
        perm.foldl_eq' (fun r _ r' _ c => Counters.applyComm c r r') _
      _ = _ := by rw [Aggregator.recordAllCounters,initial]
  · rw [tallied]
    exact Counters.tallyTotal rs
  · -- asking for more than the results recorded answers all of them
    have cut : rs.reverse.take (min n (max cap 1)) = rs.reverse.take (min n (min (max cap 1) rs.length)) := by
      rw [List.take_eq_take_iff,List.length_reverse]
      omega
    rw [Aggregator.recordAllNewest,cut,List.take_reverse]

theorem aggregatorOrderFreeSwap :
    let first : ValidationResult := ⟨"a.ts",[],3⟩
    let second : ValidationResult := ⟨"b.ts",[⟨"secret",.critical,"key in source",some 1⟩],5⟩
    let a := [first,second].foldl Aggregator.record (Aggregator.new 1)
    [first,second].Perm [second,first] ∧
    a.counters = ([second,first].foldl Aggregator.record (Aggregator.new 1)).counters ∧
    a.counters = Counters.tally [first,second] ∧
    a.counters.violationsDetected =
      a.counters.criticalViolations + a.counters.warnings + a.counters.infoViolations +
        a.counters.suggestions ∧
    a.newest 2 = ([first,second].drop (2 - min 2 (min (max 1 1) 2))).reverse :=
  ⟨List.Perm.swap _ _ [],aggregatorOrderFree 1 (List.Perm.swap _ _ []) 2⟩

end LintWatch.Metrics
