import LintWatch.Schedule.Pending

/-! When to validate. The scheduler waits for edits to settle before it takes a batch: the
wait opens when the queue becomes non-empty and lasts the burst delay once a full batch is
waiting, the standard delay once the target size is reached, and one and a half standard
delays for a trickle of edits. A batch is taken when the wait has run out. -/
namespace LintWatch.Schedule

/-- Where the scheduler stands. -/
inductive Phase where
  | idle
  /-- Changes are waiting, since the given time. -/
  | pending (since : Nat)
  /-- A batch has been taken and is being validated. -/
  | flushing
  deriving Repr, BEq, DecidableEq, Inhabited

/-- A batch taken from the pending set: its number, the time it was taken and its entries. -/
structure Batch where
  sequence : Nat
  flushedMs : Nat
  entries : List Entry
  deriving Repr, Inhabited

/-- The debounce state machine. -/
structure Scheduler where
  config : SchedulerConfig
  phase : Phase := .idle
  nextSequence : Nat := 1
  deriving Inhabited

namespace Scheduler

/-- The wait for a queue of `len` changes. -/
def delay (s : Scheduler) (len : Nat) : Nat :=
  if len ≥ s.config.maxBatchSize then s.config.burstDelayMs
  else if len ≥ s.config.batchSizeTarget then s.config.standardDelayMs
  else s.config.trickleDelayMs

/-- Notes the queue length: the wait opens when changes appear and closes when none are
left. -/
def observe (s : Scheduler) (now len : Nat) : Scheduler :=
  match s.phase with
  | .idle => if len > 0 then { s with phase := .pending now } else s
  | .pending _ => if len == 0 then { s with phase := .idle } else s
  | .flushing => s

/-- The time left before a batch is due, if changes are waiting. -/
def timeUntilFlush (s : Scheduler) (now len : Nat) : Option Nat × Scheduler :=
  let s := s.observe now len
  match s.phase with
  | .pending since => (some (s.delay len - (now - since)), s)
  | _ => (none, s)

def shouldFlush (s : Scheduler) (now len : Nat) : Bool × Scheduler :=
  let (left, s) := s.timeUntilFlush now len
  (left == some 0, s)

/-- Takes the next batch from the pending set. -/
def flush (s : Scheduler) (pending : PendingSet) (now : Nat) : Batch × PendingSet × Scheduler :=
  let (entries, pending) := pending.takeBatch s.config.maxBatchSize now
  (⟨s.nextSequence, now, entries⟩, pending,
    { s with phase := .flushing, nextSequence := s.nextSequence + 1 })

/-- A batch is done: the wait opens afresh if changes are still waiting. -/
def complete (s : Scheduler) (now len : Nat) : Scheduler :=
  { s with phase := if len > 0 then .pending now else .idle }

end Scheduler

end LintWatch.Schedule
