import LintWatch.Proofs.Pending.Operations

/-! The representation invariant of the pending set. In every state reached from an empty
set by enqueues, batches and requeues of entries those batches handed out, every entry sits
under its own path, carries no boost, costs what its path and size cost, and has the
priority of a spelling of its path; the set never exceeds its cap, and each enqueue or
requeue drops at most the oldest other entry. The priority is that of the spelling last
queued, which need not be the spelling the entry keeps. -/
namespace LintWatch.Schedule

/-- An entry's cost is that of its own path and size, and its base priority is the
classification of some spelling of its path. -/
def Entry.Scored (c : Classifier) (e : Entry) : Prop :=
  e.costMs = estimateCostMs e.path e.sizeBytes ∧
  ∃ p, Path.components p = Path.components e.path ∧ e.basePriority = c.priority p e.kind

structure Entry.Stored (c : Classifier) (k : List Path.Component) (e : Entry) : Prop where
  keyed : Path.components e.path = k
  unboosted : e.priority = e.basePriority
  scored : e.Scored c

namespace PendingSet

structure WellFormed (s : PendingSet) : Prop where
  positive : 1 ≤ s.maxPending
  bounded : s.size ≤ s.maxPending
  stored : ∀ k (e : Entry), s.entries[k]? = some e → e.Stored s.classifier k

theorem wellFormedNew (classifier : Classifier) (maxPending ageBoostMs : Nat) :
    (PendingSet.new classifier maxPending ageBoostMs).WellFormed where
  positive := Nat.le_max_right _ _
  bounded := Nat.zero_le _
  stored k e h := by simp [PendingSet.new] at h

section Evicts

variable {s after : PendingSet} {keep : List Path.Component}

theorem EvictsOldest.settings (h : EvictsOldest s after keep) :
    after.classifier = s.classifier ∧ after.maxPending = s.maxPending ∧
      after.ageBoostMs = s.ageBoostMs := by
  rcases h with rfl | ⟨v,-,-,-,-,rfl⟩ <;> exact ⟨rfl,rfl,rfl⟩

end Evicts

theorem placeThenCap {s : PendingSet} (wf : s.WellFormed) {key : List Path.Component} {e : Entry}
    (stored : e.Stored s.classifier key) :
    let placed := s.place key e
    let after := placed.enforceCap key placed.size
    EvictsOldest placed after key ∧ after.entries[key]? = some e ∧ after.WellFormed := by
  intro placed after
  have within : placed.size ≤ placed.maxPending + 1 := by
    have := placeSizeLe s key e
    have := wf.bounded
    simp only [placed,placeMaxPending]
    omega
  obtain ⟨evicts,fits⟩ := enforceCapEvictsOldest key (by simpa [placed] using wf.positive)
    within (placeSizePos s key e)
  obtain ⟨sameClassifier,sameCap,-⟩ := evicts.settings
  refine ⟨evicts,by rw [enforceCapKeeps]; simp [placed],?_⟩
  refine ⟨by rw [sameCap]; exact wf.positive,by rw [sameCap]; exact fits,fun k e' found => ?_⟩
  rw [sameClassifier]
  rcases placeLookup (enforceCapLookup _ _ _ found) with ⟨rfl,rfl⟩ | ⟨-,before⟩
  · exact stored
  · exact wf.stored k e' before

theorem enqueuedStored {s : PendingSet} (wf : s.WellFormed) (c : Change) (sizeBytes now : Nat) :
    (s.enqueued c sizeBytes now).Stored s.classifier (Path.components c.path) := by
  have keyed : Path.components (s.enqueued c sizeBytes now).path = Path.components c.path := by
    simp only [enqueued]
    cases found : s.entries[Path.components c.path]? with
    | none => rfl
    | some old => exact (wf.stored _ old found).keyed
  refine ⟨keyed,rfl,?_,c.path,keyed.symm,rfl⟩
  exact costOfSameComponents keyed.symm _

theorem requeuedStored {s : PendingSet} (wf : s.WellFormed) {e : Entry} (scored : e.Scored s.classifier) :
    (s.requeued e).Stored s.classifier (Path.components e.path) := by
  unfold requeued
  cases found : s.entries[Path.components e.path]? with
  | none => exact ⟨rfl,rfl,scored⟩
  | some old =>
    have old := wf.stored _ old found
    exact ⟨old.keyed,old.unboosted,old.scored⟩

theorem enqueueWellFormed {s : PendingSet} (wf : s.WellFormed) (c : Change) (sizeBytes now : Nat) :
    (s.enqueue c sizeBytes now).WellFormed := by
  rw [enqueueAsPlace]
  exact (placeThenCap wf (enqueuedStored wf c sizeBytes now)).2.2

theorem requeueWellFormed {s : PendingSet} (wf : s.WellFormed) {e : Entry}
    (scored : e.Scored s.classifier) : (s.requeue e).WellFormed := by
  rw [requeueAsPlace]
  exact (placeThenCap wf (requeuedStored wf scored)).2.2

theorem takeBatchWellFormed {s : PendingSet} (wf : s.WellFormed) (max now : Nat) :
    (s.takeBatch max now).2.WellFormed where
  positive := wf.positive
  bounded := by
    rw [takeBatchSize]
    exact Nat.le_trans (Nat.sub_le _ _) wf.bounded
  stored k e found := wf.stored k e (takeBatchLeftStored found)

-- a set holding only entries of a well-formed set, no more of them and under the same
-- settings, is well formed
theorem WellFormed.ofSubmap {s s' : PendingSet} (wf : s.WellFormed)
    (within : ∀ (k : List Path.Component) (e : Entry), s'.entries[k]? = some e → s.entries[k]? = some e)
    (size : s'.size ≤ s.size) (cap : s'.maxPending = s.maxPending) (made : s'.classifier = s.classifier) :
    s'.WellFormed where
  positive := cap ▸ wf.positive
  bounded := cap ▸ Nat.le_trans size wf.bounded
  stored k e found := made ▸ wf.stored k e (within k e found)

theorem takenFromSet {s : PendingSet} {max now : Nat} {e' : Entry} (mem : e' ∈ (s.takeBatch max now).1) :
    ∃ (k : List Path.Component) (e : Entry), s.entries[k]? = some e ∧
      e' = { e with priority := e.boostedPriority now s.ageBoostMs } := by
  rw [takeBatchAsRanked,List.mem_map] at mem
  obtain ⟨⟨k,e''⟩,inTake,rfl⟩ := mem
  obtain ⟨e,found,rfl⟩ := memRanked.mp (List.mem_of_mem_take inTake)
  exact ⟨k,e,found,rfl⟩

theorem takenScored {s : PendingSet} (wf : s.WellFormed) {max now : Nat} {e' : Entry}
    (mem : e' ∈ (s.takeBatch max now).1) : e'.Scored s.classifier := by
  obtain ⟨k,e,found,rfl⟩ := takenFromSet mem
  exact (wf.stored k e found).scored

theorem enqueueSettings (s : PendingSet) (c : Change) (sizeBytes now : Nat) :
    (s.enqueue c sizeBytes now).classifier = s.classifier ∧
      (s.enqueue c sizeBytes now).maxPending = s.maxPending := by
  rw [enqueueAsPlace]
  obtain ⟨same,cap,-⟩ := enforceCapSettings _ (Path.components c.path) _
  exact ⟨same,cap⟩

theorem requeueSettings (s : PendingSet) (e : Entry) :
    (s.requeue e).classifier = s.classifier ∧ (s.requeue e).maxPending = s.maxPending := by
  rw [requeueAsPlace]
  obtain ⟨same,cap,-⟩ := enforceCapSettings _ (Path.components e.path) _
  exact ⟨same,cap⟩

inductive Reachable (classifier : Classifier) (maxPending ageBoostMs : Nat) :
    PendingSet → List Entry → Prop
  | new : Reachable classifier maxPending ageBoostMs (new classifier maxPending ageBoostMs) []
  | enqueue {s issued} (c : Change) (sizeBytes now : Nat) :
      Reachable classifier maxPending ageBoostMs s issued →
      Reachable classifier maxPending ageBoostMs (s.enqueue c sizeBytes now) issued
  | requeue {s issued e} : Reachable classifier maxPending ageBoostMs s issued → e ∈ issued →
      Reachable classifier maxPending ageBoostMs (s.requeue e) issued
  | take {s issued} (max now : Nat) : Reachable classifier maxPending ageBoostMs s issued →
      Reachable classifier maxPending ageBoostMs (s.takeBatch max now).2
        (issued ++ (s.takeBatch max now).1)

theorem reachableWellFormed {classifier : Classifier} {maxPending ageBoostMs : Nat} {s : PendingSet}
    {issued : List Entry} (h : Reachable classifier maxPending ageBoostMs s issued) :
    s.classifier = classifier ∧ s.maxPending = max maxPending 1 ∧ s.WellFormed ∧
      ∀ e ∈ issued, e.Scored classifier := by
  induction h with
  | new => exact ⟨rfl,rfl,wellFormedNew _ _ _,fun e mem => absurd mem List.not_mem_nil⟩
  | enqueue c sizeBytes now _ ih =>
    obtain ⟨made,cap,wf,issued⟩ := ih
    obtain ⟨same,sameCap⟩ := enqueueSettings _ c sizeBytes now
    exact ⟨same.trans made,sameCap.trans cap,enqueueWellFormed wf c sizeBytes now,issued⟩
  | requeue _ mem ih =>
    obtain ⟨made,cap,wf,issued⟩ := ih
    obtain ⟨same,sameCap⟩ := requeueSettings _ _
    exact ⟨same.trans made,sameCap.trans cap,requeueWellFormed wf (made ▸ issued _ mem),issued⟩
  | take max now _ ih =>
    obtain ⟨made,cap,wf,issued⟩ := ih
    refine ⟨made,cap,takeBatchWellFormed wf max now,fun e mem => ?_⟩
    rcases List.mem_append.mp mem with old | taken
    · exact issued e old
    · exact made ▸ takenScored wf taken

/-- What holds in every reachable state: the settings it was made with, a well-formed set
whose entries handed out are scored, an enqueue or a requeue that keeps its own entry and
drops at most the oldest other one, and base priorities that are those of the stored path
whenever the classifier gives every spelling of a path one priority. -/
structure Invariant (classifier : Classifier) (maxPending : Nat) (s : PendingSet)
    (issued : List Entry) : Prop where
  madeBy : s.classifier = classifier
  capped : s.maxPending = max maxPending 1
  wellFormed : s.WellFormed
  issuedScored : ∀ e ∈ issued, e.Scored classifier
  enqueue : ∀ c sizeBytes now,
    (s.enqueue c sizeBytes now).entries[Path.components c.path]? = some (s.enqueued c sizeBytes now) ∧
    EvictsOldest (s.place (Path.components c.path) (s.enqueued c sizeBytes now))
      (s.enqueue c sizeBytes now) (Path.components c.path)
  requeue : ∀ e ∈ issued,
    (s.requeue e).entries[Path.components e.path]? = some (s.requeued e) ∧
    EvictsOldest (s.place (Path.components e.path) (s.requeued e)) (s.requeue e)
      (Path.components e.path)
  spelling : (∀ p q k, Path.components p = Path.components q →
      classifier.priority p k = classifier.priority q k) →
    ∀ (k : List Path.Component) (e : Entry), s.entries[k]? = some e →
      e.basePriority = classifier.priority e.path e.kind

theorem reachableInvariant {classifier : Classifier} {maxPending ageBoostMs : Nat} {s : PendingSet}
    {issued : List Entry} (h : Reachable classifier maxPending ageBoostMs s issued) :
    Invariant classifier maxPending s issued := by
  obtain ⟨made,cap,wf,scored⟩ := reachableWellFormed h
  refine ⟨made,cap,wf,scored,fun c sizeBytes now => ?_,fun e mem => ?_,fun oneSpelling k e found => ?_⟩
  · rw [enqueueAsPlace]
    obtain ⟨evicts,kept,-⟩ := placeThenCap wf (enqueuedStored wf c sizeBytes now)
    exact ⟨kept,evicts⟩
  · rw [requeueAsPlace]
    obtain ⟨evicts,kept,-⟩ := placeThenCap wf (requeuedStored wf (made ▸ scored e mem))
    exact ⟨kept,evicts⟩
  · obtain ⟨-,p,same,base⟩ := (wf.stored k e found).scored
    rw [base,made,oneSpelling p e.path e.kind same]

theorem reachableInvariantAfterEviction :
    let s := ((PendingSet.new default 1 0).enqueue ⟨"a.ts",.added,0⟩ 0 0).enqueue
      ⟨"b.ts",.modified,0⟩ 10 5
    Reachable default 1 0 s [] ∧ Invariant default 1 s [] :=
  let h := Reachable.enqueue _ 10 5 (Reachable.enqueue ⟨"a.ts",.added,0⟩ 0 0 .new)
  ⟨h,reachableInvariant h⟩

end PendingSet

end LintWatch.Schedule
