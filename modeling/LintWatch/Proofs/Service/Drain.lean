import LintWatch.Proofs.Service.Backpressure

set_option linter.dupNamespace false

/-! Processing everything pending ends, whatever the guard and the validator do. Each
round takes a non-empty batch from a well-formed set, numbers it, and puts back only the
entries the guard refused, each into the place it was just taken from; so a round that
does not hand its whole batch back shrinks the queue. The drain therefore ends within one
round per pending entry, with the queue empty or the last batch handed back whole, and
every round completes the scheduler's batch. -/
namespace LintWatch.Service

open Schedule

namespace Service

/-- The service after one round of the drain: a batch taken, processed and completed. -/
def afterBatch (s : Service) : Service := s.flushNow.2

theorem settleScheduler (s : Service) :
    s.settle.scheduler.phase ≠ .flushing ∧ s.settle.scheduler.config = s.scheduler.config ∧
      s.settle.scheduler.nextSequence = s.scheduler.nextSequence := by
  refine ⟨?_,rfl,rfl⟩
  change (if s.pending.size > 0 then Phase.pending s.nowMs else .idle) ≠ .flushing
  split <;> simp

theorem flushNowRound {s : Service} (wf : s.pending.WellFormed)
    (sized : 0 < s.scheduler.config.maxBatchSize) (occupied : 0 < s.pending.size) :
    ∃ r, s.flushNow.1 = some (r,r.total) ∧ r.sequence = s.scheduler.nextSequence ∧
      r.deferred ≤ r.total ∧ s.afterBatch.pending.size + r.total = s.pending.size + r.deferred ∧
      s.afterBatch.pending.WellFormed ∧ s.afterBatch.scheduler.config = s.scheduler.config ∧
      s.afterBatch.scheduler.nextSequence = s.scheduler.nextSequence + 1 ∧
      s.afterBatch.scheduler.phase ≠ .flushing := by
  have length : s.nextBatch.entries.length = min s.scheduler.config.maxBatchSize s.pending.size :=
    PendingSet.takeBatchLength _ _ _
  have taken : s.nextBatch.entries ≠ [] := by
    intro empty
    rw [empty,List.length_nil] at length
    omega
  obtain ⟨sequence,counted,refused,-,pending⟩ := processBatchReport s.taken s.nextBatch
  have total : (s.taken.processBatch s.nextBatch).1.total = s.nextBatch.entries.length := counted
  have round : s.flushNow = (some ((s.taken.processBatch s.nextBatch).1,s.nextBatch.entries.length),
      (s.taken.processBatch s.nextBatch).2.settle) := by
    rw [flushNowSpec,if_neg (by simpa using taken)]
  obtain ⟨unsettled,sameConfig,sameNext⟩ := settleScheduler (s.taken.processBatch s.nextBatch).2
  -- what the guard refused is part of the batch, so its keys are distinct and vacant
  have fromBatch : (s.taken.processBatch s.nextBatch).1.refused.Sublist s.nextBatch.entries := by
    rw [refused]
    split
    · exact List.nil_sublist _
    · exact List.filter_sublist
  obtain ⟨lookup,-,made,cap,-,size⟩ := PendingSet.requeueTaken wf (fun e mem => fromBatch.subset mem)
    ((PendingSet.batchKeysDistinct wf _ _).sublist (fromBatch.map _))
  have requeued : s.afterBatch.pending = (s.taken.processBatch s.nextBatch).1.refused.foldl
      PendingSet.requeue (s.pending.takeBatch s.scheduler.config.maxBatchSize s.nowMs).2 := by
    rw [afterBatch,round]
    exact pending
  have deferred := fromBatch.length_le
  rw [← Report.deferred] at deferred size
  rw [← requeued] at lookup made cap size
  have within : ∀ (k : List Path.Component) (e : Entry), s.afterBatch.pending.entries[k]? = some e →
      s.pending.entries[k]? = some e := by
    intro k e found
    rw [lookup k] at found
    split at found
    · exact found
    · cases found
  have bounded := Nat.min_le_right s.scheduler.config.maxBatchSize s.pending.size
  refine ⟨_,by rw [round,total],sequence,by omega,by omega,wf.ofSubmap within (by omega) cap made,?_,?_,?_⟩
  · rw [afterBatch,round]
    exact sameConfig
  · rw [afterBatch,round]
    exact sameNext
  · rw [afterBatch,round]
    exact unsettled

theorem drainIdle {s : Service} (acc : List Report) (empty : s.pending.size = 0) (fuel : Nat) :
    drain fuel s acc = (acc.reverse,s) := by
  cases fuel with
  | zero => rfl
  | succ f => rw [drain,if_pos (by simpa using empty)]

theorem drainRound {s : Service} {r : Report} (acc : List Report) (occupied : 0 < s.pending.size)
    (flushed : s.flushNow.1 = some (r,r.total)) (fuel : Nat) :
    drain (fuel + 1) s acc = if r.deferred = r.total then ((r :: acc).reverse,s.afterBatch)
      else drain fuel s.afterBatch (r :: acc) := by
  rw [drain,if_neg (by simpa using Nat.pos_iff_ne_zero.mp occupied)]
  rcases h : s.flushNow with ⟨_ | ⟨r',n⟩,s'⟩ <;> rw [h] at flushed
  · cases flushed
  · cases flushed
    simp [afterBatch,h]

theorem drainRun {s : Service} (acc : List Report) (wf : s.pending.WellFormed)
    (sized : 0 < s.scheduler.config.maxBatchSize) {fuel : Nat} (enough : s.pending.size + 1 ≤ fuel) :
    drain fuel s acc = drain (s.pending.size + 1) s acc ∧
    ∃ new, (drain fuel s acc).1 = acc.reverse ++ new ∧ new.length ≤ s.pending.size ∧
      new.map (·.sequence) = List.range' s.scheduler.nextSequence new.length ∧
      (drain fuel s acc).2 = afterBatch^[new.length] s ∧
      (∀ i, i + 1 < new.length → (afterBatch^[i + 1] s).pending.size < (afterBatch^[i] s).pending.size) ∧
      ((drain fuel s acc).2.pending.size = 0 ∨ ∃ r, new.getLast? = some r ∧ r.deferred = r.total) ∧
      ((drain fuel s acc).2.scheduler.phase ≠ .flushing ∨ new = []) := by
  induction fuel using Nat.strongRecOn generalizing s acc with
  | _ fuel ih =>
    obtain ⟨f,rfl⟩ : ∃ f, fuel = f + 1 := ⟨fuel - 1,by omega⟩
    by_cases empty : s.pending.size = 0
    · rw [drainIdle acc empty,drainIdle acc empty]
      exact ⟨rfl,[],by simp,by simp,by simp,rfl,by simp,.inl empty,.inr rfl⟩
    obtain ⟨r,flushed,sequence,deferred,size,wf',config,next,phase⟩ := flushNowRound wf sized (by omega)
    rw [drainRound acc (by omega) flushed,drainRound acc (by omega) flushed]
    by_cases stall : r.deferred = r.total
    · -- the whole batch came back, which ends the drain
      rw [if_pos stall,if_pos stall]
      exact ⟨rfl,[r],by simp,by simp; omega,by simp [sequence],rfl,by simp,.inr ⟨r,rfl,stall⟩,.inl phase⟩
    · -- the round admitted something, so the queue shrank and the drain goes on from there
      rw [if_neg stall,if_neg stall]
      have shrinks : s.afterBatch.pending.size < s.pending.size := by omega
      have sized' : 0 < s.afterBatch.scheduler.config.maxBatchSize := config ▸ sized
      obtain ⟨same,-⟩ := ih s.pending.size (by omega) (r :: acc) wf' sized' (by omega)
      obtain ⟨same',new,out,len,seq,final,shrinking,last,settled⟩ :=
        ih f (by omega) (r :: acc) wf' sized' (by omega)
      refine ⟨same'.trans same.symm,r :: new,by simp [out],by simp; omega,?_,?_,?_,?_,?_⟩
      · simp [sequence,seq,next,List.range'_succ]
      · rw [List.length_cons,Function.iterate_succ_apply]
        exact final
      · intro i bound
        cases i with
        | zero => simpa using shrinks
        | succ j =>
          rw [Function.iterate_succ_apply,Function.iterate_succ_apply]
          exact shrinking j (by simpa using bound)
      · rcases last with empty' | ⟨r',isLast,whole⟩
        · exact .inl empty'
        · exact .inr ⟨r',by rw [List.getLast?_cons,isLast]; rfl,whole⟩
      · rcases settled with settled | rfl
        · exact .inl settled
        · left
          rw [final]
          exact phase

end Service

end LintWatch.Service
