import LintWatch.Proofs.Pending.Merge

/-! What a batch takes. Batch order is a lexicographic order that ends on the key, so on
entries under distinct keys it is strict and total; the ranked set is sorted by it, and a
batch of a well-formed set is its first entries: they come strictly in batch order, each
is the stored entry with its priority boosted as of the moment taken, and every entry
left behind ranks after all of them. -/
namespace LintWatch.Schedule

theorem batchOrderIsLex :
    batchOrder = compareLex (flip (compareOn fun x : Keyed => x.2.priority))
      (compareLex (compareOn fun x : Keyed => x.2.costMs)
        (compareLex (compareOn fun x : Keyed => x.2.enqueuedMs) (compareOn Prod.fst))) := rfl

instance : Std.TransCmp batchOrder := by
  rw [batchOrderIsLex]
  infer_instance

theorem batchOrderSameKey {a b : Keyed} (tie : batchOrder a b = .eq) : a.1 = b.1 := by
  simp only [batchOrder,Ordering.then_eq_eq] at tie
  exact Std.LawfulEqCmp.eq_of_compare tie.2.2.2

theorem batchOrderLe {a b : Keyed} (le : (batchOrder a b != .gt) = true) (apart : a.1 ≠ b.1) :
    batchOrder a b = .lt := by
  cases tie : batchOrder a b with
  | lt => rfl
  | eq => exact absurd (batchOrderSameKey tie) apart
  | gt => simp [tie] at le

/-- An entry under the key of its own path. -/
def Entry.keyed (e : Entry) : Keyed := (Path.components e.path, e)

namespace PendingSet

theorem rankedSorted (s : PendingSet) (now : Nat) :
    (s.ranked now).Pairwise fun a b => (batchOrder a b != .gt) = true := by
  apply List.pairwise_mergeSort
  · intro a b c first second
    simpa using Std.TransCmp.le_trans (by simpa using first) (by simpa using second)
  · intro a b
    cases order : batchOrder a b
    · simp
    · simp
    · simp [Std.OrientedCmp.gt_iff_lt.mp order]

theorem rankedStrict (s : PendingSet) (now : Nat) :
    (s.ranked now).Pairwise fun a b => batchOrder a b = .lt := by
  -- the keys are distinct, so no two ranked entries tie
  have apart := List.pairwise_map.mp (rankedKeysNodup s now)
  exact ((rankedSorted s now).and apart).imp fun ⟨le,ne⟩ => batchOrderLe le ne

theorem batchKeyed {s : PendingSet} (wf : s.WellFormed) (max now : Nat) :
    (s.takeBatch max now).1.map Entry.keyed = (s.ranked now).take max := by
  rw [takeBatchAsRanked,List.map_map]
  conv => rhs; rw [← List.map_id ((s.ranked now).take max)]
  apply List.map_congr_left
  intro ⟨k,e'⟩ mem
  obtain ⟨e,found,rfl⟩ := memRanked.mp (List.mem_of_mem_take mem)
  simp [Entry.keyed,(wf.stored k e found).keyed]

theorem leftRanksAfter {s : PendingSet} (wf : s.WellFormed) {max now : Nat} {k : List Path.Component}
    {e : Entry} (left : (s.takeBatch max now).2.entries[k]? = some e) :
    ∀ x ∈ (s.takeBatch max now).1,
      batchOrder x.keyed { e with priority := e.boostedPriority now s.ageBoostMs }.keyed = .lt := by
  rw [takeBatchLookup] at left
  split at left
  · cases left
  rename_i notTaken
  have keyed : Path.components e.path = k := (wf.stored k e left).keyed
  have ranked : (k,{ e with priority := e.boostedPriority now s.ageBoostMs }) ∈ s.ranked now :=
    memRanked.mpr ⟨e,left,rfl⟩
  -- the ranked list is the batch followed by the rest, and this entry is in the rest
  have rest : (k,{ e with priority := e.boostedPriority now s.ageBoostMs }) ∈ (s.ranked now).drop max := by
    rw [← List.take_append_drop max (s.ranked now),List.mem_append] at ranked
    exact ranked.resolve_left fun taken => notTaken (List.mem_map_of_mem taken)
  have split := List.take_append_drop max (s.ranked now) ▸ rankedStrict s now
  intro x mem
  have first : x.keyed ∈ (s.ranked now).take max := by
    rw [← batchKeyed wf]
    exact List.mem_map_of_mem mem
  simpa [Entry.keyed,keyed] using List.pairwise_append.mp split |>.2.2 _ first _ rest

theorem nodupOfStrict {l : List Keyed} (strict : l.Pairwise fun a b => batchOrder a b = .lt) : l.Nodup :=
  strict.imp fun {a _} ab same => by
    subst same
    have tie : batchOrder a a = .eq := Std.ReflCmp.compare_self
    rw [tie] at ab
    cases ab

theorem memRankedRest {s : PendingSet} {max now : Nat} {x : Keyed} :
    x ∈ (s.ranked now).drop max ↔ x ∈ s.ranked now ∧ x.1 ∉ ((s.ranked now).take max).map (·.1) := by
  have distinct := rankedKeysNodup s now
  rw [← List.take_append_drop max (s.ranked now),List.map_append] at distinct
  -- a key sits either in the batch or in the rest, never in both
  have apart := (List.nodup_append.mp distinct).2.2
  constructor
  · intro mem
    exact ⟨List.mem_of_mem_drop mem,fun taken => apart _ taken _ (List.mem_map_of_mem mem) rfl⟩
  · rintro ⟨mem,fresh⟩
    rw [← List.take_append_drop max (s.ranked now),List.mem_append] at mem
    exact mem.resolve_left fun taken => fresh (List.mem_map_of_mem taken)

/-- What a batch leaves ranks as the rest of the ranking it was taken from. -/
theorem rankedAfterBatch (s : PendingSet) (max now : Nat) :
    (s.takeBatch max now).2.ranked now = (s.ranked now).drop max := by
  -- both lists are strictly sorted, so it is enough that they hold the same entries
  have after := rankedStrict (s.takeBatch max now).2 now
  have rest := (rankedStrict s now).sublist (List.drop_sublist max _)
  refine List.Perm.eq_of_pairwise (fun a b _ _ ab ba => ?_) after rest ?_
  · rw [Std.OrientedCmp.gt_iff_lt.mpr ab] at ba
    cases ba
  have boost : (s.takeBatch max now).2.ageBoostMs = s.ageBoostMs := rfl
  apply (List.perm_ext_iff_of_nodup (nodupOfStrict after) (nodupOfStrict rest)).mpr
  intro ⟨k,e'⟩
  rw [memRankedRest,memRanked,memRanked,takeBatchLookup,boost]
  split
  · simp_all
  · simp_all

/-- A batch is the first `min max n` entries of the set in batch order, their priorities
boosted as of `now`, and the set keeps the others untouched. -/
theorem batchIsTopPrefix {classifier : Classifier} {maxPending ageBoostMs : Nat} {s : PendingSet}
    {issued : List Entry} (reached : Reachable classifier maxPending ageBoostMs s issued) (max now : Nat) :
    let L := (s.takeBatch max now).1
    let after := (s.takeBatch max now).2
    L.length = min max s.size ∧
    (L.map (Path.components ·.path)).Nodup ∧
    (∀ x ∈ L, ∃ e, s.get? x.path = some e ∧ x = { e with priority := e.boostedPriority now s.ageBoostMs }) ∧
    L.Pairwise (fun a b => batchOrder a.keyed b.keyed = .lt) ∧
    (∀ (k : List Path.Component) (e : Entry), after.entries[k]? = some e →
      ∀ x ∈ L, batchOrder x.keyed { e with priority := e.boostedPriority now s.ageBoostMs }.keyed = .lt) ∧
    (∀ k, after.entries[k]? = if k ∈ L.map (Path.components ·.path) then none else s.entries[k]?) ∧
    ({ after with entries := s.entries } : PendingSet) = s := by
  intro L after
  have wf := (reachableWellFormed reached).2.2.1
  refine ⟨takeBatchLength s max now,batchKeysDistinct wf max now,fun x mem => ?_,?_,
    fun k e left => leftRanksAfter wf left,fun k => ?_,rfl⟩
  · obtain ⟨k,e,found,rfl⟩ := takenFromSet mem
    exact ⟨e,by simp only [get?,(wf.stored k e found).keyed,found],rfl⟩
  · have strict := ((rankedStrict s now).sublist (List.take_sublist max _))
    rw [← batchKeyed wf max now] at strict
    exact List.pairwise_map.mp strict
  · rw [takeBatchLookup,batchKeys wf]

theorem batchOfTwoTakesOne :
    let s := ((PendingSet.new default 2 0).enqueue ⟨"a.ts",.added,0⟩ 0 0).enqueue
      ⟨"b.ts",.modified,0⟩ 0 3
    Reachable default 2 0 s [] ∧ (s.takeBatch 1 7).1.length = min 1 s.size ∧
      ∀ (k : List Path.Component) (e : Entry), (s.takeBatch 1 7).2.entries[k]? = some e →
        ∀ x ∈ (s.takeBatch 1 7).1,
          batchOrder x.keyed { e with priority := e.boostedPriority 7 s.ageBoostMs }.keyed = .lt :=
  let h := Reachable.enqueue ⟨"b.ts",.modified,0⟩ 0 3 (Reachable.enqueue ⟨"a.ts",.added,0⟩ 0 0 .new)
  let top := batchIsTopPrefix h 1 7
  ⟨h,top.1,top.2.2.2.2.1⟩

end PendingSet

end LintWatch.Schedule
