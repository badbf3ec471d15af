import LintWatch.Proofs.Pending.Batch
import LintWatch.Proofs.Service.Drain

set_option linter.dupNamespace false

/-! Processing everything pending sorts it in chunks. The clock stands still while the queue
is drained, so every round ranks what is left at one reading; a round whose batch the guard
admits whole takes the first `m` entries of that ranking and leaves the rest of it as the
ranking of the next round. When no entry is put off, the batches one after another are
therefore the pending entries in batch order, `m` at a time, the last chunk holding what
remains, and the queue ends empty. -/
namespace LintWatch.Service

open Schedule

theorem chunksFlatten {α : Type} (L : List α) (m k : Nat) :
    ((List.range k).map fun i => (L.drop (m * i)).take m).flatten = L.take (m * k) := by
  induction k with
  | zero => simp
  | succ k ih =>
    rw [List.range_succ,List.map_append,List.flatten_append,ih,Nat.mul_succ,List.take_add]
    simp

/-- `k` rounds of `m` that cover `n` entries, the last of them finding some left, number
`⌈n / m⌉`. -/
theorem roundsAsCeil {n m k : Nat} (sized : 0 < m) (covered : n ≤ m * k)
    (started : ∀ j, k = j + 1 → m * j < n) : k = (n + m - 1) / m := by
  cases k with
  | zero =>
    rw [Nat.mul_zero] at covered
    rw [Nat.le_zero.mp covered,Nat.zero_add]
    exact (Nat.div_eq_of_lt (Nat.sub_lt sized Nat.one_pos)).symm
  | succ k =>
    have before := started k rfl
    rw [Nat.mul_add_one] at covered
    refine (Nat.div_eq_of_lt_le ?_ ?_).symm
    · rw [Nat.add_one_mul,Nat.mul_comm k m]
      omega
    · rw [Nat.add_one_mul,Nat.add_one_mul,Nat.mul_comm k m]
      omega

namespace Service

theorem afterBatchNow (s : Service) : s.afterBatch.nowMs = s.nowMs := by
  rw [afterBatch,flushNowSpec]
  split <;> rfl

theorem flushNowTaken {s : Service} {r : Report} {n : Nat} (flushed : s.flushNow.1 = some (r,n)) :
    r = (s.taken.processBatch s.nextBatch).1 ∧ n = s.nextBatch.entries.length ∧
      s.afterBatch = (s.taken.processBatch s.nextBatch).2.settle := by
  rw [afterBatch]
  rw [flushNowSpec] at flushed ⊢
  split
  · rename_i empty
    rw [if_pos empty] at flushed
    cases flushed
  · rename_i full
    rw [if_neg full] at flushed
    cases flushed
    exact ⟨rfl,rfl,rfl⟩

/-- A round whose batch the guard admitted whole reports on that batch and leaves exactly
what the batch did not take. -/
theorem admittedRound {s : Service} {r : Report} (flushed : s.flushNow.1 = some (r,r.total))
    (admitted : r.deferred = 0) :
    r.sequence = s.nextBatch.sequence ∧ r.total = s.nextBatch.entries.length ∧
      s.afterBatch.pending = (s.pending.takeBatch s.scheduler.config.maxBatchSize s.nowMs).2 := by
  obtain ⟨report,size,round⟩ := flushNowTaken flushed
  obtain ⟨sequence,-,-,-,pending⟩ := processBatchReport s.taken s.nextBatch
  have none : (s.taken.processBatch s.nextBatch).1.refused = [] := by
    rw [← report]
    exact List.length_eq_zero_iff.mp admitted
  refine ⟨report ▸ sequence,size,?_⟩
  rw [round]
  change (s.taken.processBatch s.nextBatch).2.pending = _
  rw [pending,none]
  rfl

theorem admittedRoundTakes {s : Service} {r : Report} (flushed : s.flushNow.1 = some (r,r.total))
    (admitted : r.deferred = 0) (sized : 0 < s.scheduler.config.maxBatchSize)
    (occupied : 0 < s.pending.size) : 0 < r.total := by
  obtain ⟨-,size,-⟩ := admittedRound flushed admitted
  rw [size,nextBatchEntries,PendingSet.takeBatchLength]
  exact Nat.lt_min.mpr ⟨sized,occupied⟩

/-- The reports of a drain are those of its rounds, one round after another, each taken from
a non-empty queue. -/
theorem drainRounds {s : Service} (acc : List Report) (wf : s.pending.WellFormed)
    (sized : 0 < s.scheduler.config.maxBatchSize) (fuel : Nat) :
    ∃ new, (drain fuel s acc).1 = acc.reverse ++ new ∧
      ∀ i (hi : i < new.length), 0 < (afterBatch^[i] s).pending.size ∧
        (afterBatch^[i] s).flushNow.1 = some (new[i],new[i].total) := by
  induction fuel generalizing s acc with
  | zero => exact ⟨[],by simp [drain],fun i hi => absurd hi (Nat.not_lt_zero _)⟩
  | succ f ih =>
    by_cases empty : s.pending.size = 0
    · rw [drainIdle acc empty]
      exact ⟨[],by simp,fun i hi => absurd hi (Nat.not_lt_zero _)⟩
    obtain ⟨r,flushed,-,-,-,wf',config,-,-⟩ := flushNowRound wf sized (by omega)
    rw [drainRound acc (by omega) flushed]
    have occupied : 0 < s.pending.size := Nat.pos_of_ne_zero empty
    split
    · refine ⟨[r],by simp,fun i hi => ?_⟩
      obtain rfl : i = 0 := by simpa using hi
      exact ⟨occupied,flushed⟩
    · obtain ⟨new,out,rounds⟩ := ih (r :: acc) wf' (config ▸ sized)
      refine ⟨r :: new,by simp [out],fun i hi => ?_⟩
      cases i with
      | zero => exact ⟨occupied,flushed⟩
      | succ j =>
        rw [Function.iterate_succ_apply]
        exact rounds j (by simpa using hi)

/-- While every round is admitted whole, the `i`-th round ranks what is left as the ranking
of the start with its first `i` chunks dropped, at the same clock reading. -/
theorem admittedRounds {s : Service} (wf : s.pending.WellFormed)
    (sized : 0 < s.scheduler.config.maxBatchSize) {reports : List Report}
    (rounds : ∀ i (hi : i < reports.length), 0 < (afterBatch^[i] s).pending.size ∧
      (afterBatch^[i] s).flushNow.1 = some (reports[i],reports[i].total))
    (admitted : ∀ r ∈ reports, r.deferred = 0) :
    ∀ i ≤ reports.length,
      (afterBatch^[i] s).pending.ranked s.nowMs =
        (s.pending.ranked s.nowMs).drop (s.scheduler.config.maxBatchSize * i) ∧
      (afterBatch^[i] s).pending.WellFormed ∧ (afterBatch^[i] s).nowMs = s.nowMs ∧
      (afterBatch^[i] s).scheduler.config = s.scheduler.config := by
  intro i
  induction i with
  | zero => exact fun _ => ⟨by simp,wf,rfl,rfl⟩
  | succ i ih =>
    intro bound
    obtain ⟨ranked,wf',now,config⟩ := ih (by omega)
    obtain ⟨occupied,flushed⟩ := rounds i (by omega)
    obtain ⟨-,-,-,-,-,wf'',config',-,-⟩ := flushNowRound wf' (config ▸ sized) occupied
    obtain ⟨-,-,left⟩ := admittedRound flushed (admitted _ (List.getElem_mem _))
    rw [Function.iterate_succ_apply']
    refine ⟨?_,wf'',by rw [afterBatchNow,now],by rw [config',config]⟩
    rw [left,now,config,PendingSet.rankedAfterBatch,ranked,List.drop_drop,Nat.mul_add_one]

theorem flushNowAdmits {s : Service} (admits : s.processor.opened.admits = true) :
    (∀ r n, s.flushNow.1 = some (r,n) → r.deferred = 0) ∧ s.flushNow.2.processor.opened.admits = true := by
  rw [flushNowSpec]
  split
  · refine ⟨?_,admits⟩
    intro r n flushed
    cases flushed
  · obtain ⟨-,-,refused,-,-⟩ := processBatchReport s.taken s.nextBatch
    obtain ⟨k,f,shape⟩ := processBatchProcessor s.taken s.nextBatch
    have admits' : s.taken.processor.opened.admits = true := admits
    refine ⟨fun r n flushed => ?_,?_⟩
    · cases flushed
      rw [Report.deferred,refused,if_pos admits']
      rfl
    · change (s.taken.processBatch s.nextBatch).2.processor.opened.admits = true
      rw [shape,Processor.openedRestate,Processor.restateAdmits]
      exact admits'

/-- A guard that admits at the start of a batch admits at the start of every batch, so a
drain puts nothing off. -/
theorem drainAdmitsAll (fuel : Nat) {s : Service} {acc : List Report}
    (admits : s.processor.opened.admits = true) (clean : ∀ r ∈ acc, r.deferred = 0) :
    ∀ r ∈ (drain fuel s acc).1, r.deferred = 0 := by
  induction fuel generalizing s acc with
  | zero => simpa [drain] using clean
  | succ f ih =>
    obtain ⟨deferred,admits'⟩ := flushNowAdmits admits
    rw [drain]
    split
    · simpa using clean
    · rcases flushed : s.flushNow with ⟨_ | ⟨r,n⟩,s'⟩
      · simpa using clean
      · have zero := deferred r n (by rw [flushed])
        rw [flushed] at admits'
        have clean' : ∀ x ∈ r :: acc, x.deferred = 0 := by
          intro x mem
          rcases List.mem_cons.mp mem with rfl | old
          · exact zero
          · exact clean x old
        dsimp only
        split
        · intro x mem
          exact clean' x (List.mem_reverse.mp mem)
        · exact ih admits' clean'

end Service

/-- Repeated flushing is a chunked sort. From a well-formed queue of `n` entries with batches
of at most `m ≥ 1`, a drain in which no entry is put off gives `⌈n / m⌉` reports, one per
batch and in the batches' order; the batches hold `m` entries each but the last, which holds
what remains; together, in order, they are every pending entry once, with its priority
boosted at the clock reading, strictly in batch order; and the queue ends empty. -/
theorem drainIsChunkedSort (s : Service) (wf : s.pending.WellFormed)
    (sized : 0 < s.scheduler.config.maxBatchSize)
    (admitted : ∀ r ∈ s.processPending.1, r.deferred = 0) :
    let m := s.scheduler.config.maxBatchSize
    let n := s.pending.size
    let reports := s.processPending.1
    let batches := (List.range reports.length).map fun i => (Service.afterBatch^[i] s).nextBatch
    let sorted := (batches.flatMap (·.entries)).map Entry.keyed
    reports.length = (n + m - 1) / m ∧
    reports.map (fun r => (r.sequence,r.total)) = batches.map (fun b => (b.sequence,b.entries.length)) ∧
    batches.map (·.entries.length) = (List.range reports.length).map (fun i => min m (n - m * i)) ∧
    sorted.Perm (s.pending.entries.toList.map fun (k,e) =>
      ((k,{ e with priority := e.boostedPriority s.nowMs s.pending.ageBoostMs }) : Keyed)) ∧
    sorted.Pairwise (fun a b => batchOrder a b = .lt) ∧
    s.processPending.2.pending.size = 0 := by
  intro m n reports batches sorted
  obtain ⟨-,new,out,-,-,final,-,last,-⟩ := Service.drainRun [] wf sized (Nat.le_refl _)
  obtain ⟨new',out',rounds⟩ := Service.drainRounds [] wf sized (s.pending.size + 1)
  simp only [List.reverse_nil,List.nil_append] at out out'
  have isNew : reports = new := out
  have isNew' : reports = new' := out'
  subst isNew'
  have ending : s.processPending.2 = Service.afterBatch^[reports.length] s := by
    rw [isNew]
    exact final
  have progress := Service.admittedRounds wf sized rounds admitted
  let L := s.pending.ranked s.nowMs
  -- the `i`-th batch is the `i`-th chunk of the ranking, and what is left is the rest of it
  have chunk : ∀ i < reports.length,
      (Service.afterBatch^[i] s).nextBatch.entries.map Entry.keyed = (L.drop (m * i)).take m := by
    intro i hi
    obtain ⟨ranked,wf',now,config⟩ := progress i (Nat.le_of_lt hi)
    rw [Service.nextBatchEntries,PendingSet.batchKeyed wf',config,now,ranked]
  have left : ∀ i ≤ reports.length, (Service.afterBatch^[i] s).pending.size = n - m * i := by
    intro i hi
    rw [← PendingSet.rankedLength _ s.nowMs,(progress i hi).1,List.length_drop,PendingSet.rankedLength]
  -- a round of the drain took a non-empty batch and put nothing off, so none stopped it early
  have emptied : (Service.afterBatch^[reports.length] s).pending.size = 0 := by
    rcases last with empty | ⟨r,isLast,whole⟩
    · rw [← ending]
      exact empty
    · exfalso
      rw [← isNew] at isLast
      obtain ⟨j,hj,rfl⟩ : ∃ j, ∃ hj : j < reports.length, reports[j] = r := by
        have mem := List.mem_of_getLast? isLast
        obtain ⟨j,hj,same⟩ := List.getElem_of_mem mem
        exact ⟨j,hj,same⟩
      obtain ⟨occupied,flushed⟩ := rounds j hj
      have none := admitted _ (List.getElem_mem hj)
      have taken := Service.admittedRoundTakes flushed none
        ((progress j (Nat.le_of_lt hj)).2.2.2 ▸ sized) occupied
      rw [← whole,none] at taken
      exact Nat.lt_irrefl 0 taken
  have covered : n ≤ m * reports.length := by
    have full := left reports.length (Nat.le_refl _)
    rw [emptied] at full
    omega
  have count : reports.length = (n + m - 1) / m := by
    refine roundsAsCeil sized covered fun k lastRound => ?_
    -- the last round still found entries, so the first `k` chunks did not use them all
    have before := (rounds k (by omega)).1
    rw [left k (by omega)] at before
    omega
  have isRanking : sorted = L := by
    have flat : sorted = ((List.range reports.length).map fun i => (L.drop (m * i)).take m).flatten := by
      simp only [sorted,batches,List.map_flatMap,List.flatMap_def,List.map_map]
      congr 1
      apply List.map_congr_left
      intro i mem
      exact chunk i (List.mem_range.mp mem)
    rw [flat,chunksFlatten,List.take_of_length_le]
    rw [PendingSet.rankedLength]
    exact covered
  refine ⟨count,?_,?_,?_,?_,by rw [ending]; exact emptied⟩
  · apply List.ext_getElem (by simp [batches])
    intro i hi hi'
    simp only [List.length_map] at hi
    obtain ⟨sequence,total,-⟩ := Service.admittedRound (rounds i hi).2 (admitted _ (List.getElem_mem _))
    simp [batches,sequence,total]
  · simp only [batches,List.map_map]
    apply List.map_congr_left
    intro i mem
    have hi := List.mem_range.mp mem
    rw [Function.comp_apply,← List.length_map (f := Entry.keyed),chunk i hi,List.length_take,
      List.length_drop,PendingSet.rankedLength]
  · rw [isRanking]
    exact List.mergeSort_perm _ _
  · rw [isRanking]
    exact PendingSet.rankedStrict _ _

/-- Two edits drained one per batch by a guard with room to spare: two reports. -/
theorem drainOfTwoEditsSorts :
    let s : Service := {
      root := "/", settings := {}, tree := {}, scheduler := { config := { maxBatchSize := 1 } }
      pending := ((PendingSet.new default 4 0).enqueue ⟨"a.ts",.modified,0⟩ 0 0).enqueue
        ⟨"b.ts",.added,0⟩ 0 0
      processor := {
        validator := rulesValidator 100, sample := {}, maxFileSizeBytes := 1000, readTimeoutMs := 10
        guard := Guard.new {} }
      filter := default, aggregator := Metrics.Aggregator.new 4, model := {}, trend := default
      sink := none, watchEnabled := false }
    s.pending.WellFormed ∧ 0 < s.scheduler.config.maxBatchSize ∧
      (∀ r ∈ s.processPending.1, r.deferred = 0) ∧
      s.processPending.1.length =
        (s.pending.size + s.scheduler.config.maxBatchSize - 1) / s.scheduler.config.maxBatchSize := by
  intro s
  have made : PendingSet.Reachable default 4 0 s.pending [] :=
    .enqueue ⟨"b.ts",.added,0⟩ 0 0 (.enqueue ⟨"a.ts",.modified,0⟩ 0 0 .new)
  have wf : s.pending.WellFormed := (PendingSet.reachableWellFormed made).2.2.1
  have admits : s.processor.opened.admits = true := by decide
  have admitted : ∀ r ∈ s.processPending.1, r.deferred = 0 :=
    Service.drainAdmitsAll _ admits fun r mem => absurd mem List.not_mem_nil
  exact ⟨wf,by decide,admitted,(drainIsChunkedSort s wf (by decide) admitted).1⟩

end LintWatch.Service
