import Mathlib
import LintWatch.Proofs.Pending.Batch

/-! Waiting raises a pending change's priority by one for each full boost interval, and base
priorities lie between one and five. So once the clock has reached the later of two queued
changes, the one queued at least five intervals earlier outranks it, unless the later one's
boost has saturated; a batch then never takes the later change while leaving the earlier
one behind. The clock never goes back: every change was queued at a reading no later than
the current one. -/
namespace LintWatch.Schedule

theorem Classifier.priorityBounds (c : Classifier) (p : String) (k : ChangeKind) :
    1 ≤ c.priority p k ∧ c.priority p k ≤ 5 := by
  simp only [Classifier.priority]
  split <;> split <;> split <;> split <;> omega

theorem Entry.Scored.baseBounds {c : Classifier} {e : Entry} (scored : e.Scored c) :
    1 ≤ e.basePriority ∧ e.basePriority ≤ 5 := by
  obtain ⟨-,p,-,base⟩ := scored
  rw [base]
  exact c.priorityBounds p e.kind

theorem Entry.boostedPriorityMono (e : Entry) (boostMs : Nat) {now now' : Nat} (later : now ≤ now') :
    e.boostedPriority now boostMs ≤ e.boostedPriority now' boostMs := by
  unfold Entry.boostedPriority
  split
  · exact Nat.le_refl _
  · have waited : (now - e.enqueuedMs) / boostMs ≤ (now' - e.enqueuedMs) / boostMs :=
      Nat.div_le_div_right (by omega)
    omega

/-- Five intervals of extra waiting make up for any difference of base priorities. -/
theorem Entry.boostedOutranks {a b : Entry} {now boostMs : Nat} (boosting : 0 < boostMs)
    (least : 1 ≤ a.basePriority) (most : b.basePriority ≤ 5) (queued : b.enqueuedMs ≤ now)
    (gap : a.enqueuedMs + 5 * boostMs ≤ b.enqueuedMs)
    (unsaturated : b.boostedPriority now boostMs < maxPriority) :
    b.boostedPriority now boostMs < a.boostedPriority now boostMs := by
  have waited : (now - b.enqueuedMs) / boostMs + 5 ≤ (now - a.enqueuedMs) / boostMs := calc
    (now - b.enqueuedMs) / boostMs + 5 = (now - b.enqueuedMs + 5 * boostMs) / boostMs :=
      (Nat.add_mul_div_right _ _ boosting).symm
    _ ≤ (now - a.enqueuedMs) / boostMs := Nat.div_le_div_right (by omega)
  have on : (boostMs == 0) = false := by simpa using Nat.pos_iff_ne_zero.mp boosting
  simp only [Entry.boostedPriority,on,Bool.false_eq_true,if_false] at unsaturated ⊢
  omega

theorem batchOrderHigherFirst {x y : Keyed} (higher : y.2.priority < x.2.priority) :
    batchOrder x y = .lt := by
  simp only [batchOrder,Nat.compare_eq_lt.mpr higher,Ordering.lt_then]

namespace PendingSet

theorem enqueueUnderCap {s : PendingSet} (room : s.size < s.maxPending) (c : Change) (sizeBytes now : Nat) :
    s.enqueue c sizeBytes now = s.place (Path.components c.path) (s.enqueued c sizeBytes now) := by
  have grown := placeSizeLe s (Path.components c.path) (s.enqueued c sizeBytes now)
  rw [enqueueAsPlace]
  exact enforceCapWithin (by rw [placeMaxPending]; omega) _

theorem reachableAgeBoost {classifier : Classifier} {maxPending ageBoostMs : Nat} {s : PendingSet}
    {issued : List Entry} (h : Reachable classifier maxPending ageBoostMs s issued) :
    s.ageBoostMs = ageBoostMs := by
  induction h with
  | new => rfl
  | enqueue c sizeBytes now _ ih =>
    rw [enqueueAsPlace]
    exact (enforceCapSettings _ _ _).2.2.trans ih
  | requeue _ _ ih =>
    rw [requeueAsPlace]
    exact (enforceCapSettings _ _ _).2.2.trans ih
  | take _ _ _ ih => exact ih

/-- The pending set at a clock reading: reached by enqueues, requeues and batches at the
readings of a clock that only moves forward. -/
inductive Clocked (classifier : Classifier) (maxPending ageBoostMs : Nat) :
    PendingSet → List Entry → Nat → Prop
  | new : Clocked classifier maxPending ageBoostMs (new classifier maxPending ageBoostMs) [] 0
  | enqueue {s issued now} (c : Change) (sizeBytes : Nat) :
      Clocked classifier maxPending ageBoostMs s issued now →
      Clocked classifier maxPending ageBoostMs (s.enqueue c sizeBytes now) issued now
  | requeue {s issued now e} : Clocked classifier maxPending ageBoostMs s issued now → e ∈ issued →
      Clocked classifier maxPending ageBoostMs (s.requeue e) issued now
  | take {s issued now} (max : Nat) : Clocked classifier maxPending ageBoostMs s issued now →
      Clocked classifier maxPending ageBoostMs (s.takeBatch max now).2
        (issued ++ (s.takeBatch max now).1) now
  | advance {s issued now} (ms : Nat) : Clocked classifier maxPending ageBoostMs s issued now →
      Clocked classifier maxPending ageBoostMs s issued (now + ms)

section Clock

variable {classifier : Classifier} {maxPending ageBoostMs : Nat} {s : PendingSet}
  {issued : List Entry} {now : Nat}

theorem Clocked.reachable (h : Clocked classifier maxPending ageBoostMs s issued now) :
    Reachable classifier maxPending ageBoostMs s issued := by
  induction h with
  | new => exact .new
  | enqueue c sizeBytes _ ih => exact .enqueue c sizeBytes _ ih
  | requeue _ mem ih => exact .requeue ih mem
  | take max _ ih => exact .take max _ ih
  | advance _ _ ih => exact ih

/-- Every entry pending or handed out was queued at or before `now`. -/
def QueuedBy (s : PendingSet) (issued : List Entry) (now : Nat) : Prop :=
  (∀ (k : List Path.Component) (e : Entry), s.entries[k]? = some e → e.enqueuedMs ≤ now) ∧
    ∀ e ∈ issued, e.enqueuedMs ≤ now

theorem Clocked.queuedBy (h : Clocked classifier maxPending ageBoostMs s issued now) :
    QueuedBy s issued now := by
  induction h with
  | new => exact ⟨fun k e found => by simp [PendingSet.new] at found,fun e mem => absurd mem List.not_mem_nil⟩
  | @enqueue s _ now c sizeBytes _ ih =>
    refine ⟨fun k e found => ?_,ih.2⟩
    rcases enqueueLookup found with ⟨-,rfl⟩ | ⟨-,before⟩
    · -- a new entry takes the clock reading, an overwritten one keeps its own
      simp only [enqueued]
      cases old : s.entries[Path.components c.path]? with
      | none => exact Nat.le_refl _
      | some o => exact ih.1 _ o old
    · exact ih.1 k e before
  | @requeue s _ _ e _ mem ih =>
    refine ⟨fun k e' found => ?_,ih.2⟩
    rcases requeueLookup found with ⟨-,rfl⟩ | ⟨-,before⟩
    · unfold requeued
      cases old : s.entries[Path.components e.path]? with
      | none => exact ih.2 e mem
      | some o => exact Nat.le_trans (Nat.min_le_right _ _) (ih.1 _ o old)
    · exact ih.1 k e' before
  | take max _ ih =>
    refine ⟨fun k e found => ih.1 k e (takeBatchLeftStored found),fun e mem => ?_⟩
    rcases List.mem_append.mp mem with old | taken
    · exact ih.2 e old
    · obtain ⟨k,e₀,found,rfl⟩ := takenFromSet taken
      exact ih.1 k e₀ found
  | advance ms _ ih =>
    exact ⟨fun k e found => Nat.le_add_right_of_le (ih.1 k e found),
      fun e mem => Nat.le_add_right_of_le (ih.2 e mem)⟩

end Clock

/-- No starvation: with a positive boost interval, of two pending changes the one queued at
least five intervals before the other comes strictly first in batch order at the current
reading, unless the later one's boost has saturated; so no batch takes the later one and
leaves the earlier pending. Boosted priorities never fall as the clock moves on. -/
theorem agedEntryRanksFirst {classifier : Classifier} {maxPending ageBoostMs : Nat} {s : PendingSet}
    {issued : List Entry} {now : Nat} (reached : Clocked classifier maxPending ageBoostMs s issued now)
    (boosting : 0 < ageBoostMs) {ka kb : List Path.Component} {a b : Entry}
    (pendingA : s.entries[ka]? = some a) (pendingB : s.entries[kb]? = some b)
    (gap : a.enqueuedMs + 5 * ageBoostMs ≤ b.enqueuedMs)
    (unsaturated : b.boostedPriority now ageBoostMs < maxPriority) :
    batchOrder (ka,{ a with priority := a.boostedPriority now ageBoostMs })
      (kb,{ b with priority := b.boostedPriority now ageBoostMs }) = .lt ∧
    (∀ max, (∃ x ∈ (s.takeBatch max now).1, Path.components x.path = kb) →
      (s.takeBatch max now).2.entries[ka]? = none) ∧
    ∀ (e : Entry) {t t' : Nat}, t ≤ t' → e.boostedPriority t ageBoostMs ≤ e.boostedPriority t' ageBoostMs := by
  have made := reachableWellFormed reached.reachable
  have wf := made.2.2.1
  have boost : s.ageBoostMs = ageBoostMs := reachableAgeBoost reached.reachable
  have storedA := wf.stored ka a pendingA
  have storedB := wf.stored kb b pendingB
  have first : batchOrder (ka,{ a with priority := a.boostedPriority now ageBoostMs })
      (kb,{ b with priority := b.boostedPriority now ageBoostMs }) = .lt :=
    batchOrderHigherFirst (Entry.boostedOutranks boosting storedA.scored.baseBounds.1
      storedB.scored.baseBounds.2 (reached.queuedBy.1 kb b pendingB) gap unsaturated)
  refine ⟨first,fun max ⟨x,mem,keyB⟩ => ?_,fun e t t' later => e.boostedPriorityMono ageBoostMs later⟩
  -- what is left ranks after the whole batch, b among it, so a cannot be left
  cases left : (s.takeBatch max now).2.entries[ka]? with
  | none => rfl
  | some a' =>
    have same : a' = a := by
      have stored := takeBatchLeftStored left
      rw [pendingA] at stored
      exact (Option.some.inj stored).symm
    subst same
    obtain ⟨k,e,found,rfl⟩ := takenFromSet mem
    have keyed : k = kb := (wf.stored k e found).keyed.symm.trans keyB
    subst keyed
    rw [pendingB] at found
    cases found
    have later := leftRanksAfter wf left _ mem
    rw [boost] at later
    simp only [Entry.keyed,storedA.keyed,storedB.keyed] at later
    rw [Std.OrientedCmp.gt_iff_lt.mpr first] at later
    cases later

/-- A modified file queued at 0 and a new file queued five seconds later, with a one-second
boost interval: a second after the later one, the earlier comes first. -/
theorem earlierEditRanksFirst :
    let s₀ := PendingSet.new default 10 1000
    let s₁ := s₀.enqueue ⟨"a.ts",.modified,0⟩ 0 0
    let a := s₀.enqueued ⟨"a.ts",.modified,0⟩ 0 0
    let b := s₁.enqueued ⟨"b.ts",.added,0⟩ 0 5000
    let s := s₁.enqueue ⟨"b.ts",.added,0⟩ 0 5000
    Clocked default 10 1000 s [] 6000 ∧ s.entries[Path.components "a.ts"]? = some a ∧
      s.entries[Path.components "b.ts"]? = some b ∧ a.enqueuedMs + 5 * 1000 ≤ b.enqueuedMs ∧
      b.boostedPriority 6000 1000 < maxPriority ∧
      batchOrder (Path.components "a.ts",{ a with priority := a.boostedPriority 6000 1000 })
        (Path.components "b.ts",{ b with priority := b.boostedPriority 6000 1000 }) = .lt := by
  intro s₀ s₁ a b s
  have reached : Clocked default 10 1000 s [] 6000 :=
    .advance 1000 (.enqueue ⟨"b.ts",.added,0⟩ 0 (.advance 5000 (.enqueue ⟨"a.ts",.modified,0⟩ 0 .new)))
  have apart : Path.components "a.ts" ≠ Path.components "b.ts" := by cbv; simp
  have first : s₁ = s₀.place (Path.components "a.ts") a := enqueueUnderCap (by decide) _ 0 0
  have roomy : s₁.size < s₁.maxPending := by
    have := placeSizeLe s₀ (Path.components "a.ts") a
    rw [first,placeMaxPending]
    change _ < 10
    change _ ≤ 0 + 1 at this
    omega
  have second : s = s₁.place (Path.components "b.ts") b := enqueueUnderCap roomy _ 0 5000
  have vacant : s₁.entries[Path.components "b.ts"]? = none := by
    rw [first,placeEntries,Std.TreeMap.getElem?_insert,if_neg (fun same => apart
      (Std.LawfulEqCmp.eq_of_compare same))]
    rfl
  have pendingA : s.entries[Path.components "a.ts"]? = some a := by
    rw [second,placeEntries,Std.TreeMap.getElem?_insert,if_neg (fun same => apart
      (Std.LawfulEqCmp.eq_of_compare same).symm),first,placeEntries,Std.TreeMap.getElem?_insert_self]
  have pendingB : s.entries[Path.components "b.ts"]? = some b := enqueueKeeps _ _ _ _
  have gap : a.enqueuedMs + 5 * 1000 ≤ b.enqueuedMs := by
    simp only [a,b,enqueued,vacant]
    decide
  have unsaturated : b.boostedPriority 6000 1000 < maxPriority := by
    have base := s₁.classifier.priorityBounds "b.ts" .added
    have largest : maxPriority = 4294967295 := by decide
    simp only [Entry.boostedPriority,b,enqueued,vacant,Option.map_none,Option.getD_none]
    rw [if_neg (by decide),largest]
    omega
  exact ⟨reached,pendingA,pendingB,gap,unsaturated,
    (agedEntryRanksFirst reached (by decide) pendingA pendingB gap unsaturated).1⟩

end PendingSet

end LintWatch.Schedule
