import Mathlib.Data.List.Induction
import LintWatch.Proofs.Pending.Invariant

/-! Merging the changes to one path over a run. While a path stays queued, its entry holds
what the latest enqueue of it said, or what the entry that put it back said when none
came since, and it keeps the earliest queue time among the one it came with and those of
the entries put back since. A batch put back whole, in any order, leaves the set as it
was. -/
namespace LintWatch.Schedule

/-- The fields a change sets: its kind, when it was seen, its priority, cost and size. -/
structure Stamp where
  kind : ChangeKind
  detectedMs : Nat
  basePriority : Nat
  costMs : Nat
  sizeBytes : Nat
  deriving DecidableEq, Repr

def Entry.stamp (e : Entry) : Stamp := ⟨e.kind,e.detectedMs,e.basePriority,e.costMs,e.sizeBytes⟩

def Classifier.stamp (cl : Classifier) (c : Change) (sizeBytes : Nat) : Stamp :=
  let size := if c.kind == .removed then 0 else sizeBytes
  ⟨c.kind,c.detectedMs,cl.priority c.path c.kind,estimateCostMs c.path size,size⟩

namespace PendingSet

inductive Op where
  | enqueue (c : Change) (sizeBytes now : Nat)
  | requeue (e : Entry)
  | take (max now : Nat)
  deriving Repr

namespace Op

def apply : Op → PendingSet → PendingSet
  | .enqueue c sizeBytes now, s => s.enqueue c sizeBytes now
  | .requeue e, s => s.requeue e
  | .take max now, s => (s.takeBatch max now).2

/-- What an operation gives path `p` when it queues `p` afresh: the stamp and the time. -/
def opens (cl : Classifier) (p : List Path.Component) : Op → Option (Stamp × Nat)
  | .enqueue c sizeBytes now => if Path.components c.path = p then some (cl.stamp c sizeBytes,now) else none
  | .requeue e => if Path.components e.path = p then some (e.stamp,e.enqueuedMs) else none
  | .take _ _ => none

def stampFor (cl : Classifier) (p : List Path.Component) : Op → Option Stamp
  | .enqueue c sizeBytes _ => if Path.components c.path = p then some (cl.stamp c sizeBytes) else none
  | _ => none

def requeueTime (p : List Path.Component) : Op → Option Nat
  | .requeue e => if Path.components e.path = p then some e.enqueuedMs else none
  | _ => none

end Op

def run (s : PendingSet) (ops : List Op) : PendingSet := ops.foldl (fun s o => o.apply s) s

def lastStamp (cl : Classifier) (p : List Path.Component) (ops : List Op) : Option Stamp :=
  (ops.filterMap (Op.stampFor cl p)).getLast?

def requeueTimes (p : List Path.Component) (ops : List Op) : List Nat :=
  ops.filterMap (Op.requeueTime p)

theorem runSnoc (s : PendingSet) (ops : List Op) (o : Op) : run s (ops ++ [o]) = o.apply (run s ops) :=
  List.foldl_append

theorem applyClassifier (s : PendingSet) (o : Op) : (o.apply s).classifier = s.classifier := by
  cases o with
  | enqueue c sizeBytes now => exact (enqueueSettings s c sizeBytes now).1
  | requeue e => exact (requeueSettings s e).1
  | take max now => rfl

theorem runClassifier (s : PendingSet) (ops : List Op) : (run s ops).classifier = s.classifier := by
  induction ops using List.reverseRecOn with
  | nil => rfl
  | append_singleton ops o ih => rw [runSnoc,applyClassifier,ih]

theorem lastStampSnoc (cl : Classifier) (p : List Path.Component) (ops : List Op) (o : Op)
    (start : Stamp) :
    (lastStamp cl p (ops ++ [o])).getD start = (o.stampFor cl p).getD ((lastStamp cl p ops).getD start) := by
  unfold lastStamp
  rw [List.filterMap_append]
  cases h : o.stampFor cl p <;> simp [h]

theorem requeueTimesSnoc (p : List Path.Component) (ops : List Op) (o : Op) (start : Nat) :
    (requeueTimes p (ops ++ [o])).foldl min start =
      ((o.requeueTime p).map (min ((requeueTimes p ops).foldl min start))).getD
        ((requeueTimes p ops).foldl min start) := by
  unfold requeueTimes
  rw [List.filterMap_append]
  cases h : o.requeueTime p <;> simp [h]

theorem applyLookup {s : PendingSet} {o : Op} {p : List Path.Component} {e : Entry}
    (found : (o.apply s).entries[p]? = some e) :
    (s.entries[p]? = none ∧ o.opens s.classifier p = some (e.stamp,e.enqueuedMs)) ∨
      ∃ e₀, s.entries[p]? = some e₀ ∧ e.stamp = (o.stampFor s.classifier p).getD e₀.stamp ∧
        e.enqueuedMs = ((o.requeueTime p).map (min e₀.enqueuedMs)).getD e₀.enqueuedMs := by
  cases o with
  | enqueue c sizeBytes now =>
    rcases enqueueLookup found with ⟨same,rfl⟩ | ⟨other,before⟩
    · cases old : s.entries[p]? with
      | none =>
        refine .inl ⟨rfl,?_⟩
        simp [Op.opens,same,enqueued,old,Entry.stamp,Classifier.stamp]
      | some e₀ =>
        refine .inr ⟨e₀,rfl,?_,?_⟩
        · simp [Op.stampFor,same,enqueued,Entry.stamp,Classifier.stamp]
        · simp [Op.requeueTime,enqueued,same,old]
    · exact .inr ⟨e,before,by simp [Op.stampFor,other],by simp [Op.requeueTime]⟩
  | requeue e' =>
    rcases requeueLookup found with ⟨same,rfl⟩ | ⟨other,before⟩
    · cases old : s.entries[p]? with
      | none =>
        refine .inl ⟨rfl,?_⟩
        simp [Op.opens,same,requeued,old,Entry.stamp]
      | some e₀ =>
        refine .inr ⟨e₀,rfl,?_,?_⟩
        · simp [Op.stampFor,requeued,same,old,Entry.stamp]
        · simp [Op.requeueTime,requeued,same,old,Nat.min_comm]
    · exact .inr ⟨e,before,by simp [Op.stampFor],by simp [Op.requeueTime,other]⟩
  | take max now =>
    simp only [Op.apply,takeBatchLookup] at found
    split at found
    · cases found
    · exact .inr ⟨e,found,by simp [Op.stampFor],by simp [Op.requeueTime]⟩

theorem everyPrefixSnoc {Q : List Op → Prop} {ops : List Op} {o : Op}
    (each : ∀ n ≤ ops.length, Q (ops.take n)) (whole : Q (ops ++ [o])) :
    ∀ n ≤ (ops ++ [o]).length, Q ((ops ++ [o]).take n) := by
  intro n within
  by_cases last : n ≤ ops.length
  · rw [List.take_append_of_le_length last]
    exact each n last
  · have : (ops ++ [o]).length ≤ n := by simp; omega
    rw [List.take_of_length_le this]
    exact whole

theorem runLookup {s : PendingSet} {ops : List Op} {p : List Path.Component} {e : Entry}
    (found : (run s ops).entries[p]? = some e) :
    (∃ e₀, s.entries[p]? = some e₀ ∧ (∀ n ≤ ops.length, ((run s (ops.take n)).entries[p]?).isSome) ∧
        e.stamp = (lastStamp s.classifier p ops).getD e₀.stamp ∧
        e.enqueuedMs = (requeueTimes p ops).foldl min e₀.enqueuedMs) ∨
      ∃ pre o post start, ops = pre ++ o :: post ∧ (run s pre).entries[p]? = none ∧
        o.opens s.classifier p = some start ∧
        (∀ n ≤ post.length, ((run s (pre ++ o :: post.take n)).entries[p]?).isSome) ∧
        e.stamp = (lastStamp s.classifier p post).getD start.1 ∧
        e.enqueuedMs = (requeueTimes p post).foldl min start.2 := by
  induction ops using List.reverseRecOn generalizing e with
  | nil =>
    refine .inl ⟨e,found,fun n _ => ?_,rfl,rfl⟩
    simp only [List.take_nil,run,List.foldl_nil]
    simp [run] at found
    simp [found]
  | append_singleton ops o ih =>
    rw [runSnoc] at found
    have sameClassifier := runClassifier s ops
    rcases applyLookup found with ⟨absent,opens⟩ | ⟨e₀,before,stamp,time⟩
    · -- the last operation queued `p` afresh
      refine .inr ⟨ops,o,[],(e.stamp,e.enqueuedMs),rfl,absent,sameClassifier ▸ opens,?_,rfl,rfl⟩
      intro n _
      rw [List.take_nil,runSnoc,found]
      rfl
    rw [sameClassifier] at stamp
    rcases ih before with ⟨e₁,init,throughout,stamp₀,time₀⟩ | ⟨pre,o₀,post,start,split,absent,opens,stays,stamp₀,time₀⟩
    · refine .inl ⟨e₁,init,everyPrefixSnoc (Q := fun l => ((run s l).entries[p]?).isSome) throughout
        (by rw [runSnoc,found]; rfl),?_,?_⟩
      · rw [lastStampSnoc,← stamp₀,stamp]
      · rw [requeueTimesSnoc,← time₀,time]
    · have whole : pre ++ o₀ :: (post ++ [o]) = ops ++ [o] := by
        rw [split]
        simp
      refine .inr ⟨pre,o₀,post ++ [o],start,whole.symm,absent,opens,
        everyPrefixSnoc (Q := fun l => ((run s (pre ++ o₀ :: l)).entries[p]?).isSome) stays
          (by rw [whole,runSnoc,found]; rfl),?_,?_⟩
      · rw [lastStampSnoc,← stamp₀,stamp]
      · rw [requeueTimesSnoc,← time₀,time]

theorem requeueIntoVacant {m : PendingSet} {e : Entry}
    (vacant : m.entries[Path.components e.path]? = none) (room : m.size < m.maxPending) :
    m.requeue e = m.place (Path.components e.path) { e with priority := e.basePriority } := by
  have fresh : m.requeued e = { e with priority := e.basePriority } := by simp [requeued,vacant]
  rw [requeueAsPlace,fresh]
  apply enforceCapWithin
  have := placeSizeLe m (Path.components e.path) { e with priority := e.basePriority }
  simp only [placeMaxPending]
  omega

theorem requeueAllVacant {R : List Entry} {m : PendingSet}
    (distinct : (R.map (Path.components ·.path)).Nodup)
    (vacant : ∀ e ∈ R, m.entries[Path.components e.path]? = none)
    (room : m.size + R.length ≤ m.maxPending) :
    (∀ e ∈ R, (R.foldl requeue m).entries[Path.components e.path]? =
        some { e with priority := e.basePriority }) ∧
      (∀ k, (∀ e ∈ R, Path.components e.path ≠ k) → (R.foldl requeue m).entries[k]? = m.entries[k]?) ∧
      (R.foldl requeue m).evicted = m.evicted ∧ (R.foldl requeue m).maxPending = m.maxPending ∧
      (R.foldl requeue m).classifier = m.classifier ∧ (R.foldl requeue m).ageBoostMs = m.ageBoostMs ∧
      (R.foldl requeue m).size = m.size + R.length := by
  induction R generalizing m with
  | nil => exact ⟨fun e mem => absurd mem List.not_mem_nil,fun _ _ => rfl,rfl,rfl,rfl,rfl,rfl⟩
  | cons e rest ih =>
    rw [List.map_cons,List.nodup_cons] at distinct
    rw [List.foldl_cons,requeueIntoVacant (vacant e List.mem_cons_self) (by simp at room; omega)]
    have stillVacant : ∀ e' ∈ rest, (m.place (Path.components e.path)
        { e with priority := e.basePriority }).entries[Path.components e'.path]? = none := by
      intro e' mem
      rw [placeEntries,Std.TreeMap.getElem?_insert,if_neg]
      · exact vacant e' (List.mem_cons_of_mem e mem)
      · intro same
        exact distinct.1 (Std.LawfulEqCmp.eq_of_compare same ▸ List.mem_map_of_mem mem)
    have grown : (m.place (Path.components e.path) { e with priority := e.basePriority }).size =
        m.size + 1 := by
      change (m.entries.insert _ _).size = m.entries.size + 1
      rw [Std.TreeMap.size_insert,if_neg]
      rw [Std.TreeMap.contains_eq_isSome_getElem?,vacant e List.mem_cons_self]
      simp
    obtain ⟨placed,others,evicted,cap,made,boost,size⟩ := ih distinct.2 stillVacant
      (by rw [grown,placeMaxPending]; simp at room; omega)
    refine ⟨fun e' mem => ?_,fun k away => ?_,evicted,cap,made,boost,?_⟩
    · rcases List.mem_cons.mp mem with rfl | later
      · rw [others _ (fun e'' mem'' same => distinct.1 (by rw [← same]; exact List.mem_map_of_mem mem''))]
        simp
      · exact placed e' later
    · rw [others k (fun e' mem => away e' (List.mem_cons_of_mem e mem)),placeEntries,
        Std.TreeMap.getElem?_insert,if_neg (fun same => away e List.mem_cons_self
          (Std.LawfulEqCmp.eq_of_compare same))]
    · rw [size,grown,List.length_cons]
      omega

theorem batchKeys {s : PendingSet} (wf : s.WellFormed) (max now : Nat) :
    (s.takeBatch max now).1.map (Path.components ·.path) = ((s.ranked now).take max).map (·.1) := by
  rw [takeBatchAsRanked,List.map_map]
  apply List.map_congr_left
  intro ⟨k,e'⟩ mem
  obtain ⟨e,found,rfl⟩ := memRanked.mp (List.mem_of_mem_take mem)
  exact (wf.stored k e found).keyed

theorem batchKeysDistinct {s : PendingSet} (wf : s.WellFormed) (max now : Nat) :
    ((s.takeBatch max now).1.map (Path.components ·.path)).Nodup := by
  rw [batchKeys wf,List.map_take]
  exact (rankedKeysNodup s now).sublist (List.take_sublist _ _)

-- an entry a batch hands out sits under the key it was taken from, with its old fields
theorem takenRestores {s : PendingSet} (wf : s.WellFormed) {max now : Nat} {e' : Entry}
    (mem : e' ∈ (s.takeBatch max now).1) :
    ∃ e, s.entries[Path.components e'.path]? = some e ∧
      Path.components e'.path ∈ ((s.ranked now).take max).map (·.1) ∧
      { e' with priority := e'.basePriority } = e := by
  have inKeys : Path.components e'.path ∈ ((s.ranked now).take max).map (·.1) := by
    rw [← batchKeys wf]
    exact List.mem_map_of_mem mem
  obtain ⟨k,e,found,rfl⟩ := takenFromSet mem
  have stored := wf.stored k e found
  refine ⟨e,by rw [stored.keyed]; exact found,inKeys,?_⟩
  have unboosted := stored.unboosted
  cases e
  simp only at unboosted
  simp [unboosted]

theorem requeueTaken {s : PendingSet} (wf : s.WellFormed) {max now : Nat} {R : List Entry}
    (taken : ∀ e ∈ R, e ∈ (s.takeBatch max now).1) (distinct : (R.map (Path.components ·.path)).Nodup) :
    let s' := R.foldl requeue (s.takeBatch max now).2
    (∀ k, s'.entries[k]? =
        if (∃ e ∈ R, Path.components e.path = k) ∨ k ∉ ((s.ranked now).take max).map (·.1)
        then s.entries[k]? else none) ∧
      s'.evicted = s.evicted ∧ s'.classifier = s.classifier ∧ s'.maxPending = s.maxPending ∧
        s'.ageBoostMs = s.ageBoostMs ∧ s'.size = s.size - min max s.size + R.length := by
  intro s'
  have source := fun e' (mem : e' ∈ (s.takeBatch max now).1) => takenRestores wf mem
  have vacant : ∀ e ∈ R, (s.takeBatch max now).2.entries[Path.components e.path]? = none := by
    intro e mem
    obtain ⟨_,_,inKeys,_⟩ := source e (taken e mem)
    rw [takeBatchLookup,if_pos inKeys]
  have room : (s.takeBatch max now).2.size + R.length ≤ (s.takeBatch max now).2.maxPending := by
    have fewer : R.length ≤ (((s.ranked now).take max).map (·.1)).length := by
      rw [← List.length_map (f := fun e : Entry => Path.components e.path)]
      exact distinct.length_le_of_subset fun k mem => by
        obtain ⟨e,inR,rfl⟩ := List.mem_map.mp mem
        obtain ⟨_,_,inKeys,_⟩ := source e (taken e inR)
        exact inKeys
    rw [List.length_map,List.length_take,rankedLength] at fewer
    have := takeBatchSize s max now
    have := wf.bounded
    change _ ≤ s.maxPending
    omega
  obtain ⟨placed,others,evicted,cap,made,boost,size⟩ := requeueAllVacant distinct vacant room
  refine ⟨fun k => ?_,evicted,made,cap,boost,by rw [size,takeBatchSize]⟩
  by_cases back : ∃ e ∈ R, Path.components e.path = k
  · obtain ⟨e,inR,rfl⟩ := back
    obtain ⟨e₀,found,-,restored⟩ := source e (taken e inR)
    rw [if_pos (.inl ⟨e,inR,rfl⟩),found,placed e inR,restored]
  · rw [others k (fun e mem same => back ⟨e,mem,same⟩),takeBatchLookup]
    by_cases inKeys : k ∈ ((s.ranked now).take max).map (·.1)
    · rw [if_pos inKeys,if_neg]
      rintro (h | h)
      · exact back h
      · exact h inKeys
    · rw [if_neg inKeys,if_pos (.inr inKeys)]

theorem requeueWholeBatch {s : PendingSet} (wf : s.WellFormed) (max now : Nat) {L : List Entry}
    (order : L.Perm (s.takeBatch max now).1) :
    let s' := L.foldl requeue (s.takeBatch max now).2
    s'.entries.Equiv s.entries ∧ s'.evicted = s.evicted ∧ s'.classifier = s.classifier ∧
      s'.maxPending = s.maxPending ∧ s'.ageBoostMs = s.ageBoostMs := by
  intro s'
  obtain ⟨lookup,evicted,made,cap,boost,-⟩ := requeueTaken wf (fun e mem => order.subset mem)
    ((order.map _).nodup_iff.mpr (batchKeysDistinct wf max now))
  refine ⟨Std.TreeMap.Equiv.of_forall_constGet?_eq fun k => ?_,evicted,made,cap,boost⟩
  rw [lookup k,if_pos]
  by_cases inKeys : k ∈ ((s.ranked now).take max).map (·.1)
  · -- every key taken comes back, carried by the entry taken from it
    rw [← batchKeys wf] at inKeys
    obtain ⟨e,mem,rfl⟩ := List.mem_map.mp inKeys
    exact .inl ⟨e,order.symm.subset mem,rfl⟩
  · exact .inr inKeys

theorem mergeOverRuns (classifier : Classifier) (maxPending ageBoostMs : Nat) :
    (∀ (ops : List Op) (p : List Path.Component) (e : Entry),
      (run (new classifier maxPending ageBoostMs) ops).entries[p]? = some e →
      ∃ pre o post start, ops = pre ++ o :: post ∧
        (run (new classifier maxPending ageBoostMs) pre).entries[p]? = none ∧
        o.opens classifier p = some start ∧
        (∀ n ≤ post.length,
          ((run (new classifier maxPending ageBoostMs) (pre ++ o :: post.take n)).entries[p]?).isSome) ∧
        e.stamp = (lastStamp classifier p post).getD start.1 ∧
        e.enqueuedMs = (requeueTimes p post).foldl min start.2) ∧
    (∀ (s : PendingSet) (e e₀ : Entry), s.entries[Path.components e.path]? = some e₀ →
      ∃ e', (s.requeue e).entries[Path.components e.path]? = some e' ∧ e'.stamp = e₀.stamp ∧
        e'.enqueuedMs = min e.enqueuedMs e₀.enqueuedMs) ∧
    (∀ (s : PendingSet) (c : Change) (sizeBytes now : Nat) (e₀ : Entry),
      s.entries[Path.components c.path]? = some e₀ →
      ∃ e', (s.enqueue c sizeBytes now).entries[Path.components c.path]? = some e' ∧
        e'.stamp = s.classifier.stamp c sizeBytes ∧ e'.enqueuedMs = e₀.enqueuedMs) ∧
    (∀ (s : PendingSet) (issued : List Entry) (max now : Nat) (L : List Entry),
      Reachable classifier maxPending ageBoostMs s issued → L.Perm (s.takeBatch max now).1 →
      let s' := L.foldl requeue (s.takeBatch max now).2
      s'.entries.Equiv s.entries ∧ s'.evicted = s.evicted ∧ s'.classifier = s.classifier ∧
        s'.maxPending = s.maxPending ∧ s'.ageBoostMs = s.ageBoostMs) := by
  refine ⟨fun ops p e found => ?_,fun s e e₀ found => ?_,fun s c sizeBytes now e₀ found => ?_,
    fun s issued max now L h order => requeueWholeBatch (reachableWellFormed h).2.2.1 max now order⟩
  · -- nothing is queued at the start, so some operation of the run queued `p`
    rcases runLookup found with ⟨e₀,init,-⟩ | ⟨pre,o,post,start,split,absent,opens,stays,stamp,time⟩
    · simp [PendingSet.new] at init
    · exact ⟨pre,o,post,start,split,absent,opens,stays,stamp,time⟩
  · refine ⟨s.requeued e,requeueKeeps s e,?_,?_⟩
    · simp [requeued,found,Entry.stamp]
    · simp [requeued,found]
  · refine ⟨s.enqueued c sizeBytes now,enqueueKeeps s c sizeBytes now,rfl,?_⟩
    simp [enqueued,found]

theorem batchPutBackReversed :
    let s := ((PendingSet.new default 2 0).enqueue ⟨"a.ts",.added,0⟩ 0 0).enqueue
      ⟨"b.ts",.modified,0⟩ 0 3
    let b := s.takeBatch 2 7
    Reachable default 2 0 s [] ∧ b.1.reverse.Perm b.1 ∧
      (b.1.reverse.foldl requeue b.2).entries.Equiv s.entries ∧
      (b.1.reverse.foldl requeue b.2).evicted = s.evicted :=
  let h := Reachable.enqueue ⟨"b.ts",.modified,0⟩ 0 3 (Reachable.enqueue ⟨"a.ts",.added,0⟩ 0 0 .new)
  let restored := (mergeOverRuns default 2 0).2.2.2 _ _ 2 7 _ h (List.reverse_perm _)
  ⟨h,List.reverse_perm _,restored.1,restored.2.1⟩

end PendingSet

end LintWatch.Schedule
