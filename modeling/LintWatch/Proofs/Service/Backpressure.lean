import Mathlib.Data.List.Nodup
import LintWatch.Proofs.Pending.Merge
import LintWatch.Proofs.Service.Accounting

set_option linter.dupNamespace false

/-! Work put off is never lost. A guard refuses a whole batch exactly when workers,
batch time or memory are budgeted at nothing, or the sample is at a limit. Then a batch
taken from a well-formed pending set goes back into it as it was, less its removals, which
are skipped; nothing is read, validated, recorded or evicted. Processing everything
pending under such a guard stops by itself, with every entry that is not a removal still
pending as it was. -/
namespace LintWatch

open Schedule Service

theorem Service.Processor.openedRefuses (p : Processor) :
    p.opened.admits = false ↔
      p.guard.maxWorkers = 0 ∨ p.guard.maxBatchTimeMs = 0 ∨ p.guard.maxHeapBytes ≤ p.sample.heapBytes ∨
        ∃ limit, p.guard.maxCpuPercent = some limit ∧ limit ≤ p.sample.cpuPercent := by
  simp only [Processor.admits,Processor.opened,Guard.grant,Guard.evaluate,Guard.beginBatch]
  by_cases workers : p.guard.maxWorkers = 0
  · simp [workers]
  · by_cases time : p.guard.maxBatchTimeMs = 0
    · simp [workers,time]
    · by_cases heap : p.guard.maxHeapBytes ≤ p.sample.heapBytes
      · simp [workers,time,heap]
      · cases p.guard.maxCpuPercent with
        | none => simp [workers,time,heap]
        | some c =>
          by_cases hot : c ≤ p.sample.cpuPercent
          · simp [workers,time,heap,hot]
          · simp [workers,time,heap,hot]

namespace Schedule.PendingSet

/-- What is left of a pending set once some of its removals have gone: every other key
holds what it held. -/
@[reducible] def Sheds (s s' : PendingSet) : Prop :=
  ∀ k : List Path.Component, s'.entries[k]? = s.entries[k]? ∨
    (s'.entries[k]? = none ∧ ∃ e : Entry, s.entries[k]? = some e ∧ e.kind = .removed)

theorem Sheds.refl (s : PendingSet) : s.Sheds s := fun _ => .inl rfl

theorem Sheds.trans {s s' s'' : PendingSet} (first : s.Sheds s') (second : s'.Sheds s'') :
    s.Sheds s'' := by
  intro k
  rcases second k with same | ⟨gone,e,found,removal⟩
  · rw [same]
    exact first k
  · rcases first k with same' | ⟨_,e',_⟩
    · exact .inr ⟨gone,e,same' ▸ found,removal⟩
    · simp_all

theorem Sheds.keeps {s s' : PendingSet} (shed : s.Sheds s') {k : List Path.Component} {e : Entry}
    (found : s.entries[k]? = some e) (kept : e.kind ≠ .removed) : s'.entries[k]? = some e := by
  rcases shed k with same | ⟨-,e',found',removal⟩
  · rw [same,found]
  · rw [found] at found'
    cases found'
    exact absurd removal kept

theorem Sheds.source {s s' : PendingSet} (shed : s.Sheds s') {k : List Path.Component} {e : Entry}
    (found : s'.entries[k]? = some e) : s.entries[k]? = some e := by
  rcases shed k with same | ⟨gone,-⟩
  · rw [← same,found]
  · rw [found] at gone
    cases gone

theorem requeueOffered {s : PendingSet} (wf : s.WellFormed) (max now : Nat) :
    let B := (s.takeBatch max now).1
    let s' := (offered B).foldl requeue (s.takeBatch max now).2
    (∀ k, s'.entries[k]? =
        if ∃ e ∈ B, Path.components e.path = k ∧ e.kind = .removed then none else s.entries[k]?) ∧
      s'.size = s.size - B.countP (·.kind == .removed) ∧
      s'.evicted = s.evicted ∧ s'.classifier = s.classifier ∧ s'.maxPending = s.maxPending := by
  intro B s'
  have keys := batchKeys wf max now
  have distinct := batchKeysDistinct wf max now
  obtain ⟨lookup,evicted,made,cap,-,size⟩ := requeueTaken wf (R := offered B)
    (fun e mem => (List.mem_filter.mp mem).1) (distinct.sublist (List.filter_sublist.map _))
  refine ⟨fun k => ?_,?_,evicted,made,cap⟩
  · rw [lookup k,← keys]
    by_cases dropped : ∃ e ∈ B, Path.components e.path = k ∧ e.kind = .removed
    · -- the one entry of the batch under this key is a removal, so nothing put it back
      rw [if_pos dropped,if_neg]
      obtain ⟨e,mem,rfl,removal⟩ := dropped
      rintro (⟨e',mem',same⟩ | out)
      · have offered' := List.mem_filter.mp mem'
        have : e' = e := List.inj_on_of_nodup_map distinct offered'.1 mem same
        simp [this,removal] at offered'
      · exact out (List.mem_map_of_mem mem)
    · rw [if_neg dropped,if_pos]
      by_cases taken : k ∈ B.map (Path.components ·.path)
      · obtain ⟨e,mem,rfl⟩ := List.mem_map.mp taken
        have kept : e.kind ≠ .removed := fun removal => dropped ⟨e,mem,rfl,removal⟩
        exact .inl ⟨e,List.mem_filter.mpr ⟨mem,by simpa using kept⟩,rfl⟩
      · exact .inr taken
  · have parts := removalsAddOffered B
    have batch : B.length = min max s.size := takeBatchLength s max now
    have bounded : min max s.size ≤ s.size := Nat.min_le_right _ _
    rw [size]
    omega

theorem shedsRemovals {s : PendingSet} (wf : s.WellFormed) (max now : Nat) :
    s.Sheds ((offered (s.takeBatch max now).1).foldl requeue (s.takeBatch max now).2) := by
  intro k
  rw [(requeueOffered wf max now).1 k]
  split
  · rename_i dropped
    obtain ⟨e',mem,rfl,removal⟩ := dropped
    obtain ⟨k,e,found,rfl⟩ := takenFromSet mem
    have keyed := (wf.stored k e found).keyed
    exact .inr ⟨rfl,e,by rw [keyed]; exact found,removal⟩
  · exact .inl rfl

theorem Sheds.wellFormed {s s' : PendingSet} (wf : s.WellFormed) (shed : s.Sheds s')
    (size : s'.size ≤ s.size) (cap : s'.maxPending = s.maxPending) (made : s'.classifier = s.classifier) :
    s'.WellFormed :=
  wf.ofSubmap (fun _ _ found => shed.source found) size cap made

end Schedule.PendingSet

namespace Service

theorem Processor.openedRestate (p : Processor) (n : Nat) (f : Std.TreeMap String ByteArray) :
    (p.opened.restate n f).opened = p.opened.restate n f := rfl

theorem processBatchProcessor (s : Service) (b : Batch) :
    ∃ n f, (s.processBatch b).2.processor = s.processor.opened.restate n f :=
  ⟨_,_,Processor.runRestate s.tree s.processor.opened _ b.entries⟩

theorem processBatchRefused (s : Service) (b : Batch) (refusing : s.processor.opened.admits = false) :
    (s.processBatch b).1.results = [] ∧ (s.processBatch b).1.failed = 0 ∧
      (s.processBatch b).1.unchanged = 0 ∧ (s.processBatch b).1.refused = offered b.entries ∧
      (s.processBatch b).1.skipped = b.entries.countP (·.kind == .removed) ∧
      (s.processBatch b).2.pending = (offered b.entries).foldl PendingSet.requeue s.pending ∧
      (s.processBatch b).2.aggregator = s.aggregator ∧
      (s.processBatch b).2.processor.opened.admits = false := by
  obtain ⟨-,total,refused,skipped,pending⟩ := processBatchReport s b
  rw [refusing,if_neg Bool.false_ne_true] at refused
  rw [refusing,if_neg Bool.false_ne_true,Nat.add_zero] at skipped
  have parts := removalsAddOffered b.entries
  have deferred : (s.processBatch b).1.deferred = (offered b.entries).length := by
    rw [Report.deferred,refused]
  have empty : (s.processBatch b).1.results = [] := by
    rw [← List.length_eq_zero_iff]
    change (s.processBatch b).1.validated = 0
    omega
  refine ⟨empty,by omega,by omega,refused,skipped,by rw [pending,refused],?_,?_⟩
  · change (s.processBatch b).1.results.foldl Metrics.Aggregator.record s.aggregator = s.aggregator
    rw [empty]
    rfl
  · obtain ⟨n,f,shape⟩ := processBatchProcessor s b
    rw [shape,Processor.openedRestate,Processor.restateAdmits]
    exact refusing

theorem processBatchIgnoresFiles (s : Service) (b : Batch) (refusing : s.processor.opened.admits = false)
    (tree : FileSystem) (v : Validator) :
    { s with tree, processor.validator := v }.processBatch b =
      ((s.processBatch b).1, { (s.processBatch b).2 with tree, processor.validator := v }) := by
  have same : Processor.run tree { s.processor.opened with validator := v } { sequence := b.sequence }
      b.entries = ((Processor.run s.tree s.processor.opened { sequence := b.sequence } b.entries).1,
        { (Processor.run s.tree s.processor.opened { sequence := b.sequence } b.entries).2 with validator := v }) :=
    Processor.runCongr _ fun admitted => absurd admitted (by simp [refusing])
  have unfolded : { s with tree, processor.validator := v }.processBatch b =
      let x := Processor.run tree { s.processor.opened with validator := v } { sequence := b.sequence } b.entries
      (x.1, { s with
        tree := tree
        processor := x.2
        pending := x.1.refused.foldl PendingSet.requeue s.pending
        aggregator := x.1.results.foldl Metrics.Aggregator.record s.aggregator }) :=
    rfl
  rw [unfolded,same]
  rfl

def Service.nextBatch (s : Service) : Batch :=
  ⟨s.scheduler.nextSequence,s.nowMs,(s.pending.takeBatch s.scheduler.config.maxBatchSize s.nowMs).1⟩

theorem Service.nextBatchEntries (s : Service) :
    s.nextBatch.entries = (s.pending.takeBatch s.scheduler.config.maxBatchSize s.nowMs).1 := rfl

def Service.taken (s : Service) : Service :=
  { s with
    pending := (s.pending.takeBatch s.scheduler.config.maxBatchSize s.nowMs).2
    scheduler := { s.scheduler with phase := .flushing, nextSequence := s.scheduler.nextSequence + 1 } }

def Service.settle (s : Service) : Service :=
  { s with scheduler := s.scheduler.complete s.nowMs s.pending.size }

theorem Service.flushNowSpec (s : Service) :
    s.flushNow = if s.nextBatch.entries.isEmpty then (none, s.taken.settle)
      else (some ((s.taken.processBatch s.nextBatch).1, s.nextBatch.entries.length),
        (s.taken.processBatch s.nextBatch).2.settle) := by
  have unfolded : s.flushNow =
      (fun (x : Option (Report × Nat) × Service) => (x.1, x.2.settle))
        (if s.nextBatch.entries.isEmpty then (none, s.taken)
          else (some ((s.taken.processBatch s.nextBatch).1, s.nextBatch.entries.length),
            (s.taken.processBatch s.nextBatch).2)) := rfl
  rw [unfolded]
  split <;> rfl

theorem Service.flushNowNone (s : Service) : s.flushNow.1 = none ↔ s.nextBatch.entries = [] := by
  rw [flushNowSpec]
  split
  · rename_i empty
    simpa using empty
  · rename_i full
    simpa using full

theorem Service.removalsWithinPending (s : Service) :
    s.nextBatch.entries.countP (·.kind == .removed) ≤ s.pending.size := by
  have batch := PendingSet.takeBatchLength s.pending s.scheduler.config.maxBatchSize s.nowMs
  calc s.nextBatch.entries.countP (·.kind == .removed)
      ≤ s.nextBatch.entries.length := List.countP_le_length
    _ = min s.scheduler.config.maxBatchSize s.pending.size := batch
    _ ≤ s.pending.size := Nat.min_le_right _ _

section Refusing

variable {s : Service} (refusing : s.processor.opened.admits = false)
include refusing

theorem Service.flushNowPending :
    s.flushNow.2.pending = (offered s.nextBatch.entries).foldl PendingSet.requeue
      (s.pending.takeBatch s.scheduler.config.maxBatchSize s.nowMs).2 := by
  rw [flushNowSpec]
  split
  · rename_i empty
    rw [List.isEmpty_iff.mp empty]
    rfl
  · obtain ⟨-,-,-,-,-,pending,-⟩ := processBatchRefused s.taken s.nextBatch refusing
    exact pending

theorem Service.flushNowFrame :
    s.flushNow.2.aggregator = s.aggregator ∧ s.flushNow.2.processor.opened.admits = false ∧
      s.flushNow.2.scheduler.config = s.scheduler.config ∧ s.flushNow.2.nowMs = s.nowMs := by
  rw [flushNowSpec]
  split
  · exact ⟨rfl,refusing,rfl,rfl⟩
  · obtain ⟨-,-,-,-,-,-,aggregator,admits⟩ := processBatchRefused s.taken s.nextBatch refusing
    exact ⟨aggregator,admits,rfl,rfl⟩

theorem Service.flushNowReport {r : Report} {n : Nat} (done : s.flushNow.1 = some (r,n)) :
    n = s.nextBatch.entries.length ∧ r.results = [] ∧ r.failed = 0 ∧ r.unchanged = 0 ∧
      r.deferred = (offered s.nextBatch.entries).length ∧
      r.skipped = s.nextBatch.entries.countP (·.kind == .removed) := by
  rw [flushNowSpec] at done
  split at done
  · cases done
  · cases done
    obtain ⟨empty,failed,unchanged,refused,skipped,-⟩ := processBatchRefused s.taken s.nextBatch refusing
    exact ⟨rfl,empty,failed,unchanged,by rw [Report.deferred,refused],skipped⟩

theorem Service.flushNowSheds (wf : s.pending.WellFormed) :
    s.pending.Sheds s.flushNow.2.pending ∧ s.flushNow.2.pending.WellFormed ∧
      s.flushNow.2.pending.size = s.pending.size - s.nextBatch.entries.countP (·.kind == .removed) ∧
      s.flushNow.2.pending.evicted = s.pending.evicted := by
  rw [flushNowPending refusing]
  obtain ⟨-,size,evicted,made,cap⟩ := PendingSet.requeueOffered wf s.scheduler.config.maxBatchSize s.nowMs
  have shed := PendingSet.shedsRemovals wf s.scheduler.config.maxBatchSize s.nowMs
  exact ⟨shed,shed.wellFormed wf (Nat.le_trans (Nat.le_of_eq size) (Nat.sub_le _ _)) cap made,size,evicted⟩

end Refusing

theorem Service.drainRefused (fuel : Nat) {s : Service} (acc : List Report) (wf : s.pending.WellFormed)
    (refusing : s.processor.opened.admits = false) :
    ∃ new, (drain fuel s acc).1 = acc.reverse ++ new ∧
      (∀ r ∈ new, r.results = [] ∧ r.failed = 0 ∧ r.unchanged = 0) ∧
      (new.map (·.skipped)).sum + (drain fuel s acc).2.pending.size = s.pending.size ∧
      s.pending.Sheds (drain fuel s acc).2.pending ∧
      (drain fuel s acc).2.pending.evicted = s.pending.evicted ∧
      (drain fuel s acc).2.aggregator = s.aggregator := by
  induction fuel generalizing s acc with
  | zero => exact ⟨[],by simp [drain],by simp,by simp [drain],PendingSet.Sheds.refl _,rfl,rfl⟩
  | succ f ih =>
    rw [drain]
    split
    · exact ⟨[],by simp,by simp,by simp,PendingSet.Sheds.refl _,rfl,rfl⟩
    · obtain ⟨shed,wf',size,evicted⟩ := flushNowSheds refusing wf
      obtain ⟨aggregator,refusing',-,-⟩ := flushNowFrame refusing
      have within := removalsWithinPending s
      rcases flushed : s.flushNow with ⟨_ | ⟨r,n⟩,s'⟩
      · -- nothing was taken, so nothing left the set
        have empty := (flushNowNone s).mp (by rw [flushed])
        rw [flushed] at shed size evicted aggregator
        dsimp only at shed size evicted aggregator
        rw [empty,List.countP_nil,Nat.sub_zero] at size
        exact ⟨[],by simp,by simp,by simpa using size,shed,evicted,aggregator⟩
      · obtain ⟨-,empty,failed,unchanged,-,skipped⟩ := flushNowReport refusing (by rw [flushed])
        rw [flushed] at shed wf' size evicted aggregator refusing'
        dsimp only at shed wf' size evicted aggregator refusing' ⊢
        split
        · exact ⟨[r],by simp,by simpa using ⟨empty,failed,unchanged⟩,by simp; omega,shed,evicted,aggregator⟩
        · obtain ⟨new,out,clean,sum,shed',evicted',aggregator'⟩ := ih (r :: acc) wf' refusing'
          refine ⟨r :: new,by simp [out],?_,?_,shed.trans shed',evicted'.trans evicted,aggregator'.trans aggregator⟩
          · intro r' mem
            rcases List.mem_cons.mp mem with rfl | later
            · exact ⟨empty,failed,unchanged⟩
            · exact clean r' later
          · simp only [List.map_cons,List.sum_cons]
            omega

theorem Service.drainSettles {s : Service} (acc : List Report) (wf : s.pending.WellFormed)
    (refusing : s.processor.opened.admits = false) {fuel : Nat} (enough : s.pending.size + 1 ≤ fuel) :
    drain fuel s acc = drain (s.pending.size + 1) s acc := by
  -- each batch that does not end the drain drops a removal, so the set shrinks faster than the fuel
  induction fuel using Nat.strongRecOn generalizing s acc with
  | _ fuel ih =>
    obtain ⟨f,rfl⟩ : ∃ f, fuel = f + 1 := ⟨fuel - 1,by omega⟩
    rw [drain,drain]
    split
    · rfl
    · rename_i occupied
      obtain ⟨-,wf',size,-⟩ := flushNowSheds refusing wf
      obtain ⟨-,refusing',-,-⟩ := flushNowFrame refusing
      have parts := removalsAddOffered s.nextBatch.entries
      rcases flushed : s.flushNow with ⟨_ | ⟨r,n⟩,s'⟩
      · rfl
      · obtain ⟨taken,-,-,-,deferred,-⟩ := flushNowReport refusing (by rw [flushed])
        rw [flushed] at wf' size refusing'
        dsimp only at wf' size refusing' ⊢
        split
        · rfl
        · rename_i going
          have shrinks : s'.pending.size + 1 ≤ s.pending.size := by
            simp only [beq_iff_eq] at going occupied
            omega
          rw [ih f (by omega) (r :: acc) wf' refusing' (by omega),
            ih s.pending.size (by omega) (r :: acc) wf' refusing' shrinks]

theorem Service.flushNowIgnoresFiles {s : Service} (refusing : s.processor.opened.admits = false)
    (tree : FileSystem) (v : Validator) :
    { s with tree, processor.validator := v }.flushNow =
      (s.flushNow.1, { s.flushNow.2 with tree, processor.validator := v }) := by
  have batch : ({ s with tree, processor.validator := v } : Service).nextBatch = s.nextBatch := rfl
  have taken : ({ s with tree, processor.validator := v } : Service).taken =
      { s.taken with tree, processor.validator := v } := rfl
  rw [flushNowSpec,flushNowSpec,batch,taken]
  by_cases empty : s.nextBatch.entries.isEmpty = true
  · rw [if_pos empty,if_pos empty]
    rfl
  · rw [if_neg empty,if_neg empty,processBatchIgnoresFiles s.taken _ refusing]
    rfl

theorem Service.drainIgnoresFiles (fuel : Nat) {s : Service} (acc : List Report)
    (refusing : s.processor.opened.admits = false) (tree : FileSystem) (v : Validator) :
    drain fuel { s with tree, processor.validator := v } acc =
      ((drain fuel s acc).1, { (drain fuel s acc).2 with tree, processor.validator := v }) := by
  induction fuel generalizing s acc with
  | zero => rfl
  | succ f ih =>
    rw [drain,drain]
    split
    · rfl
    · rw [flushNowIgnoresFiles refusing]
      obtain ⟨-,refusing',-,-⟩ := flushNowFrame refusing
      rcases flushed : s.flushNow with ⟨_ | ⟨r,n⟩,s'⟩
      · rfl
      · rw [flushed] at refusing'
        dsimp only at refusing' ⊢
        split
        · rfl
        · exact ih (r :: acc) refusing'

theorem Service.noRemovalTaken {s : Service}
    (kept : ∀ (k : List Path.Component) (e : Entry), s.pending.entries[k]? = some e → e.kind ≠ .removed) :
    s.nextBatch.entries.countP (·.kind == .removed) = 0 := by
  rw [List.countP_eq_zero]
  intro e' mem
  obtain ⟨k,e,found,rfl⟩ := PendingSet.takenFromSet mem
  simpa using kept k e found

theorem Service.wholeBatchDeferred {s : Service} (wf : s.pending.WellFormed)
    (refusing : s.processor.opened.admits = false) (sized : 1 ≤ s.scheduler.config.maxBatchSize)
    (occupied : 0 < s.pending.size)
    (kept : ∀ (k : List Path.Component) (e : Entry), s.pending.entries[k]? = some e → e.kind ≠ .removed) :
    ∃ r, s.processPending = ([r],s.flushNow.2) ∧
      r.deferred = min s.scheduler.config.maxBatchSize s.pending.size ∧
      s.flushNow.2.pending.entries.Equiv s.pending.entries := by
  -- a batch with no removal is handed back whole, which ends the drain after one batch
  have noRemoval := noRemovalTaken kept
  have batch : s.nextBatch.entries.length = min s.scheduler.config.maxBatchSize s.pending.size :=
    PendingSet.takeBatchLength s.pending s.scheduler.config.maxBatchSize s.nowMs
  have parts := removalsAddOffered s.nextBatch.entries
  have taken : s.nextBatch.entries ≠ [] := by
    intro empty
    rw [empty,List.length_nil] at batch
    omega
  obtain ⟨⟨r,n⟩,done⟩ := Option.ne_none_iff_exists'.mp (mt (flushNowNone s).mp taken)
  obtain ⟨size,-,-,-,deferred,-⟩ := flushNowReport refusing done
  have whole : r.deferred = n := by
    rw [deferred,size]
    omega
  refine ⟨r,?_,by rw [whole,size,batch],?_⟩
  · change drain (s.pending.size + 1) s [] = _
    rw [drain,if_neg (by simpa using Nat.pos_iff_ne_zero.mp occupied)]
    rcases flushed : s.flushNow with ⟨_ | ⟨r',n'⟩,s''⟩ <;> rw [flushed] at done
    · cases done
    · cases done
      simp [whole]
  · obtain ⟨lookup,-⟩ := PendingSet.requeueOffered wf s.scheduler.config.maxBatchSize s.nowMs
    rw [flushNowPending refusing,nextBatchEntries]
    apply Std.TreeMap.Equiv.of_forall_constGet?_eq
    intro k
    rw [lookup k,if_neg]
    rintro ⟨e,mem,-,removal⟩
    have counted : 0 < s.nextBatch.entries.countP (·.kind == .removed) :=
      List.countP_pos_iff.mpr ⟨e,mem,by simpa using removal⟩
    omega

end Service

theorem refusingGuardKeepsWork (s : Service) (wf : s.pending.WellFormed)
    (refusing : s.processor.guard.maxWorkers = 0 ∨ s.processor.guard.maxBatchTimeMs = 0 ∨
      s.processor.guard.maxHeapBytes ≤ s.processor.sample.heapBytes ∨
      ∃ limit, s.processor.guard.maxCpuPercent = some limit ∧ limit ≤ s.processor.sample.cpuPercent) :
    let reports := s.processPending.1
    let s' := s.processPending.2
    (∀ k, Service.drain (s.pending.size + 1 + k) s [] = s.processPending) ∧
    (∀ (tree : FileSystem) (v : Validator),
      { s with tree, processor.validator := v }.processPending =
        (reports, { s' with tree, processor.validator := v })) ∧
    (∀ r ∈ reports, r.results = [] ∧ r.failed = 0 ∧ r.unchanged = 0) ∧
    s'.aggregator = s.aggregator ∧ s'.pending.evicted = s.pending.evicted ∧
    (∀ (k : List Path.Component) (e : Entry), s.pending.entries[k]? = some e → e.kind ≠ .removed →
      s'.pending.entries[k]? = some e) ∧
    (∀ (k : List Path.Component) (e : Entry), s'.pending.entries[k]? = some e →
      s.pending.entries[k]? = some e) ∧
    (reports.map (·.skipped)).sum = s.pending.size - s'.pending.size ∧
    (1 ≤ s.scheduler.config.maxBatchSize → 0 < s.pending.size →
      (∀ (k : List Path.Component) (e : Entry), s.pending.entries[k]? = some e → e.kind ≠ .removed) →
      ∃ r, reports = [r] ∧ r.deferred = min s.scheduler.config.maxBatchSize s.pending.size ∧
        s'.pending.entries.Equiv s.pending.entries) := by
  intro reports s'
  have refuses := (Processor.openedRefuses s.processor).mpr refusing
  obtain ⟨new,out,clean,sum,shed,evicted,aggregator⟩ := Service.drainRefused (s.pending.size + 1) [] wf refuses
  simp only [List.reverse_nil,List.nil_append] at out
  have counted : (reports.map (·.skipped)).sum + s'.pending.size = s.pending.size := by
    rw [show reports = new from out]
    exact sum
  refine ⟨fun k => Service.drainSettles [] wf refuses (by omega),
    fun tree v => Service.drainIgnoresFiles _ [] refuses tree v,
    fun r mem => clean r (out ▸ mem),aggregator,evicted,fun k e found kept => shed.keeps found kept,
    fun k e found => shed.source found,by omega,?_⟩
  intro sized occupied kept
  obtain ⟨r,whole,deferred,same⟩ := Service.wholeBatchDeferred wf refuses sized occupied kept
  refine ⟨r,by rw [show reports = s.processPending.1 from rfl,whole],deferred,?_⟩
  rw [show s' = s.processPending.2 from rfl,whole]
  exact same

theorem refusedDrainKeepsEdit :
    let s : Service := {
      root := "/", settings := {}, tree := {}, scheduler := { config := {} }
      pending := (PendingSet.new default 4 0).enqueue ⟨"a.ts",.modified,0⟩ 0 0
      processor := {
        validator := rulesValidator 100, sample := {}, maxFileSizeBytes := 1000, readTimeoutMs := 10
        guard := { maxHeapBytes := 1, maxBatchTimeMs := 100, maxWorkers := 0, maxCpuPercent := none } }
      filter := default, aggregator := Metrics.Aggregator.new 4, model := {}, trend := default
      sink := none, watchEnabled := false }
    s.pending.WellFormed ∧ s.processor.guard.maxWorkers = 0 ∧
      s.processPending.2.aggregator = s.aggregator ∧ s.processPending.2.pending.evicted = s.pending.evicted := by
  intro s
  have made : PendingSet.Reachable default 4 0 s.pending [] :=
    PendingSet.Reachable.enqueue ⟨"a.ts",.modified,0⟩ 0 0 .new
  have wf : s.pending.WellFormed := (PendingSet.reachableWellFormed made).2.2.1
  obtain ⟨-,-,-,aggregator,evicted,-⟩ := refusingGuardKeepsWork s wf (.inl rfl)
  exact ⟨wf,rfl,aggregator,evicted⟩

end LintWatch
