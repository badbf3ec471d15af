import Mathlib
import LintWatch.Proofs.Metrics.Aggregation
import LintWatch.Metrics.Effectiveness

/-! Windows of the newest items. A ring of capacity `c` that has seen the pushes `xs` holds
the last `max c 1` of them, oldest first; each push drops exactly the item pushed
`max c 1` pushes before it. The trend of the scores is read off the ten newest alone, so it
does not depend on the window it was made with nor on any older score. -/
namespace LintWatch.Metrics

namespace Ring

variable {α : Type}

/-- The ring after pushing `xs` in order. -/
def pushAll (r : Ring α) (xs : List α) : Ring α := xs.foldl (fun r x => (r.push x).2) r

@[simp] theorem newCapacity (c : Nat) : (new c : Ring α).capacity = max c 1 := rfl

theorem pushEvicted (r : Ring α) (x : α) :
    (r.push x).1 = if r.capacity ≤ r.items.length then r.items.head? else none := by
  unfold push
  split
  · rename_i oldest rest shape
    simp only [shape,List.head?_cons]
    split <;> simp_all
  · rename_i empty
    simp [empty]

theorem pushAllCapacity (r : Ring α) (xs : List α) : (r.pushAll xs).capacity = r.capacity := by
  induction xs generalizing r with
  | nil => rfl
  | cons y ys ih => exact (ih _).trans (pushCapacity r y)

theorem pushAllItems (c : Nat) (xs : List α) : ((new c : Ring α).pushAll xs).items = xs.rtake (max c 1) := by
  have view : ((new c : Ring α).pushAll xs).items.reverse = xs.reverse.take (max c 1) := by
    simpa [new,pushAll] using pushAllNewest (new c : Ring α) xs (Nat.zero_le _) (by simp [new])
  rw [List.rtake_eq_reverse_take_reverse,← view,List.reverse_reverse]

theorem pushAllSize (c : Nat) (xs : List α) :
    ((new c : Ring α).pushAll xs).size = min xs.length (max c 1) := by
  simp [size,pushAllItems,List.rtake]
  omega

theorem pushAllEvicted (c : Nat) (xs : List α) {i : Nat} (within : i ≤ xs.length) (x : α) :
    (((new c : Ring α).pushAll (xs.take i)).push x).1 =
      if max c 1 ≤ i then xs[i - max c 1]? else none := by
  rw [pushEvicted,pushAllCapacity,pushAllItems,newCapacity]
  have length : ((xs.take i).rtake (max c 1)).length = min i (max c 1) := by
    simp [List.rtake]
    omega
  rw [length]
  by_cases full : max c 1 ≤ i
  · -- the oldest item held is the one `max c 1` places back from the push
    have oldest : ((xs.take i).rtake (max c 1)).head? = xs[i - max c 1]? := by
      simp only [List.rtake,List.length_take,List.head?_drop,List.getElem?_take]
      rw [if_pos (by omega)]
      congr 1
      omega
    rw [if_pos (by omega),if_pos full,oldest]
  · rw [if_neg (by omega),if_neg full]

end Ring

/-- Pushing `xs` into a ring of capacity `c` (at least one): the ring holds the last
`max c 1` items pushed, in push order; the `i`-th push evicts the item pushed `max c 1`
pushes before it, if any; and the newest `n` items are the last `n` pushed that it still
holds, newest first. -/
theorem ringKeepsNewest {α : Type} (c : Nat) (xs : List α) :
    ((Ring.new c : Ring α).pushAll xs).size = min xs.length (max c 1) ∧
    ((Ring.new c : Ring α).pushAll xs).items = xs.rtake (max c 1) ∧
    (∀ i : Fin xs.length, (((Ring.new c : Ring α).pushAll (xs.take i)).push xs[i]).1 =
      if max c 1 ≤ i then xs[i.val - max c 1]? else none) ∧
    ∀ n, ((Ring.new c : Ring α).pushAll xs).newest n =
      (xs.rtake (min n ((Ring.new c : Ring α).pushAll xs).size)).reverse := by
  have size := Ring.pushAllSize (α := α) c xs
  refine ⟨size,Ring.pushAllItems c xs,fun i => ?_,fun n => ?_⟩
  · exact Ring.pushAllEvicted c xs i.isLt.le xs[i]
  · -- the newest `n` held are the newest `n` pushed, since the ring keeps a suffix
    rw [Ring.newest,Ring.pushAllItems,List.rtake_eq_reverse_take_reverse,List.reverse_reverse,
      List.rtake_eq_reverse_take_reverse,List.reverse_reverse,List.take_take,size,
      List.take_eq_take_iff,List.length_reverse]
    omega

example : (((Ring.new 3 : Ring Nat).pushAll [1,2,3]).push 4).1 = some 1 ∧
    ((Ring.new 3 : Ring Nat).pushAll [1,2,3,4]).items = [2,3,4] := by
  decide

namespace TrendTracker

theorem recordAllScores (w : Nat) (xs : List Nat) :
    (xs.foldl record (new w)).scores = (Ring.new (max w 10)).pushAll xs := by
  suffices ∀ t : TrendTracker, (xs.foldl record t).scores = t.scores.pushAll xs from this _
  induction xs with
  | nil => intro t; rfl
  | cons y ys ih => intro t; exact ih _

theorem trendOfNewest {t u : TrendTracker} (same : t.scores.newest 10 = u.scores.newest 10) :
    t.trend = u.trend := by
  have sizes : t.scores.size < 10 ↔ u.scores.size < 10 := by
    have lengths := congrArg List.length same
    simp only [Ring.newest,List.length_take,List.length_reverse] at lengths
    simp only [Ring.size]
    omega
  unfold trend
  simp only [sizes,same]

theorem newestTenOfPushes (w : Nat) (xs : List Nat) :
    (xs.foldl record (new w)).scores.newest 10 = xs.reverse.take 10 := by
  rw [recordAllScores,Ring.newest,Ring.pushAllItems,List.rtake_eq_reverse_take_reverse,
    List.reverse_reverse,List.take_take]
  congr 1
  omega

end TrendTracker

/-- The trend after recording the scores `xs` is stable while fewer than ten are known, and
otherwise the trend of a fresh tracker of window ten that saw only the last ten: neither the
window nor any older score matters. -/
theorem trendOfTenNewest (w : Nat) (xs : List Nat) :
    (xs.foldl TrendTracker.record (TrendTracker.new w)).trend =
      if xs.length < 10 then .stable
      else ((xs.rtake 10).foldl TrendTracker.record (TrendTracker.new 10)).trend := by
  split
  · rename_i few
    have size : (xs.foldl TrendTracker.record (TrendTracker.new w)).scores.size < 10 := by
      rw [TrendTracker.recordAllScores,Ring.pushAllSize]
      omega
    simp [TrendTracker.trend,size]
  · apply TrendTracker.trendOfNewest
    rw [TrendTracker.newestTenOfPushes,TrendTracker.newestTenOfPushes,
      List.rtake_eq_reverse_take_reverse,List.reverse_reverse,List.take_take]
    rfl

end LintWatch.Metrics
