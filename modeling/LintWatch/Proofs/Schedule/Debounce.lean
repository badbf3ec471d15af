import LintWatch.Schedule.Debounce

/-! The debounce machine over whole runs of its drivers' calls. A batch is signalled only for
a non-empty queue whose window, opened no later than the call, has lasted the delay for the
queue's length; nothing is signalled while a batch drains, and only completing it ends the
drain; the window opens when changes first wait or when a drain ends with changes left,
and later looks leave it where it is until the queue empties; batches are numbered from one
in the order they are taken. -/
namespace LintWatch.Schedule

/-- A call of a driver on the scheduler, with the clock reading it passes. -/
inductive Call where
  | timeUntilFlush (now len : Nat)
  | shouldFlush (now len : Nat)
  | flush (pending : PendingSet) (now : Nat)
  | complete (now len : Nat)

namespace Call

def now : Call → Nat
  | .timeUntilFlush now _ | .shouldFlush now _ | .flush _ now | .complete now _ => now

def isFlush : Call → Bool
  | .flush .. => true
  | _ => false

/-- The queue length a call only looks at: the two questions about the window. -/
def observed? : Call → Option Nat
  | .timeUntilFlush _ len | .shouldFlush _ len => some len
  | _ => none

end Call

namespace Scheduler

/-- The scheduler after one call. -/
def call (s : Scheduler) : Call → Scheduler
  | .timeUntilFlush now len => (s.timeUntilFlush now len).2
  | .shouldFlush now len => (s.shouldFlush now len).2
  | .flush pending now => (s.flush pending now).2.2
  | .complete now len => s.complete now len

/-- The scheduler after a run of calls, in order. -/
def run (s : Scheduler) (calls : List Call) : Scheduler := calls.foldl call s

section Step

variable (s : Scheduler) (now len : Nat)

@[simp] theorem observeConfig : (s.observe now len).config = s.config := by
  unfold observe
  split <;> (try split) <;> rfl

@[simp] theorem observeNextSequence : (s.observe now len).nextSequence = s.nextSequence := by
  unfold observe
  split <;> (try split) <;> rfl

theorem observePhase : (s.observe now len).phase = match s.phase with
    | .idle => if 0 < len then .pending now else .idle
    | .pending since => if len = 0 then .idle else .pending since
    | .flushing => .flushing := by
  unfold observe
  cases shape : s.phase with
  | idle => by_cases waiting : 0 < len <;> simp [waiting,shape]
  | pending since => by_cases empty : len = 0 <;> simp [empty,shape]
  | flushing => simp [shape]

theorem observeEmpty {since : Nat} : (s.observe now 0).phase ≠ .pending since := by
  rw [observePhase]
  split <;> simp

theorem timeUntilFlushState : (s.timeUntilFlush now len).2 = s.observe now len := by
  simp only [timeUntilFlush]
  split <;> rfl

theorem shouldFlushState : (s.shouldFlush now len).2 = s.observe now len :=
  timeUntilFlushState s now len

theorem delayOfConfig {s s' : Scheduler} (same : s'.config = s.config) : s'.delay = s.delay := by
  funext len
  simp only [delay,same]

theorem timeUntilFlushLeft : (s.timeUntilFlush now len).1 = match (s.observe now len).phase with
    | .pending since => some (s.delay len - (now - since))
    | _ => none := by
  simp only [timeUntilFlush]
  split <;> rename_i shape <;> simp only [shape,delayOfConfig (observeConfig s now len)]

theorem shouldFlushIff : (s.shouldFlush now len).1 = true ↔
    ∃ since, (s.observe now len).phase = .pending since ∧ s.delay len ≤ now - since := by
  have left : (s.shouldFlush now len).1 = ((s.timeUntilFlush now len).1 == some 0) := rfl
  rw [left,timeUntilFlushLeft]
  split <;> rename_i shape
  · simp [shape]
    omega
  · simp only [reduceCtorEq,beq_iff_eq,false_iff,not_exists,not_and]
    intro since pending
    exact absurd pending (shape since)

theorem flushPhase (pending : PendingSet) : (s.flush pending now).2.2.phase = .flushing := rfl

theorem flushSequence (pending : PendingSet) : (s.flush pending now).1.sequence = s.nextSequence := rfl

theorem completePhase : (s.complete now len).phase = if 0 < len then .pending now else .idle := rfl

@[simp] theorem callConfig (c : Call) : (s.call c).config = s.config := by
  cases c <;> simp [call,timeUntilFlushState,shouldFlushState,flush,complete]

theorem callNextSequence (c : Call) :
    (s.call c).nextSequence = s.nextSequence + if c.isFlush then 1 else 0 := by
  cases c <;> simp [call,timeUntilFlushState,shouldFlushState,flush,complete,Call.isFlush]

theorem callObserved {c : Call} {len : Nat} (looks : c.observed? = some len) :
    s.call c = s.observe c.now len := by
  cases c <;> simp only [Call.observed?,Option.some.injEq,reduceCtorEq] at looks <;> subst looks
  · exact timeUntilFlushState ..
  · exact shouldFlushState ..

end Step

section Laws

variable (s : Scheduler) (now n : Nat)

theorem shouldFlushDue (due : (s.shouldFlush now n).1 = true) :
    0 < n ∧ ∃ since, (s.shouldFlush now n).2.phase = .pending since ∧ s.delay n ≤ now - since := by
  obtain ⟨since,pending,waited⟩ := (shouldFlushIff s now n).mp due
  have nonEmpty : 0 < n := by
    cases n with
    | zero => exact absurd pending (observeEmpty s now)
    | succ n => exact Nat.succ_pos n
  exact ⟨nonEmpty,since,by rw [shouldFlushState]; exact pending,waited⟩

theorem flushingSignalsNothing (draining : s.phase = .flushing) :
    (s.timeUntilFlush now n).1 = none ∧ (s.shouldFlush now n).1 = false := by
  have stays : (s.observe now n).phase = .flushing := by rw [observePhase,draining]
  refine ⟨by rw [timeUntilFlushLeft,stays],?_⟩
  cases due : (s.shouldFlush now n).1 with
  | false => rfl
  | true =>
    obtain ⟨since,pending,-⟩ := (shouldFlushIff s now n).mp due
    rw [stays] at pending
    cases pending

theorem onlyCompleteEndsFlushing (draining : s.phase = .flushing) {c : Call}
    (left : (s.call c).phase ≠ .flushing) : ∃ now len, c = .complete now len := by
  cases c with
  | complete now len => exact ⟨now,len,rfl⟩
  | flush pending now => exact absurd (flushPhase s now pending) left
  | timeUntilFlush now len =>
    rw [callObserved s (show (Call.timeUntilFlush now len).observed? = some len from rfl),observePhase,
      draining] at left
    exact absurd rfl left
  | shouldFlush now len =>
    rw [callObserved s (show (Call.shouldFlush now len).observed? = some len from rfl),observePhase,
      draining] at left
    exact absurd rfl left

theorem windowSource (c : Call) {since : Nat} (opened : (s.call c).phase = .pending since) :
    (∃ len, c.observed? = some len ∧ 0 < len ∧
      (s.phase = .pending since ∨ s.phase = .idle ∧ since = c.now)) ∨
    ∃ len, c = .complete since len ∧ 0 < len := by
  cases c with
  | flush pending now => rw [call,flushPhase] at opened; cases opened
  | complete now len =>
    rw [call,completePhase] at opened
    split at opened <;> rename_i waiting
    · cases opened
      exact .inr ⟨len,rfl,waiting⟩
    · cases opened
  | timeUntilFlush now len | shouldFlush now len =>
    refine .inl ⟨len,rfl,?_⟩
    rw [callObserved s rfl,observePhase] at opened
    split at opened <;> rename_i shape
    · split at opened <;> rename_i waiting
      · cases opened
        exact ⟨waiting,.inr ⟨shape,rfl⟩⟩
      · cases opened
    · split at opened <;> rename_i empty
      · cases opened
      · cases opened
        exact ⟨Nat.pos_of_ne_zero empty,.inl shape⟩
    · cases opened

theorem windowKept {since : Nat} (open_ : s.phase = .pending since) {c : Call} {len : Nat}
    (looks : c.observed? = some len) :
    (s.call c).phase = if len = 0 then .idle else .pending since := by
  rw [callObserved s looks,observePhase,open_]

end Laws

/-- Every open window opened no later than `t`. -/
def OpenedBy (s : Scheduler) (t : Nat) : Prop := ∀ since, s.phase = .pending since → since ≤ t

theorem callOpenedBy {s : Scheduler} {t : Nat} (c : Call) (before : s.OpenedBy t) (upTo : c.now ≤ t) :
    (s.call c).OpenedBy t := by
  intro since opened
  rcases windowSource s c opened with ⟨len,-,-,kept | ⟨-,fresh⟩⟩ | ⟨len,rfl,-⟩
  · exact before since kept
  · exact fresh ▸ upTo
  · exact upTo

theorem runOpenedBy {s : Scheduler} {t : Nat} (calls : List Call) (before : s.OpenedBy t)
    (upTo : ∀ c ∈ calls, c.now ≤ t) : (s.run calls).OpenedBy t := by
  induction calls generalizing s with
  | nil => exact before
  | cons c rest ih =>
    exact ih (callOpenedBy c before (upTo c List.mem_cons_self))
      fun c' mem => upTo c' (List.mem_cons_of_mem c mem)

theorem runConfig (s : Scheduler) (calls : List Call) : (s.run calls).config = s.config := by
  induction calls generalizing s with
  | nil => rfl
  | cons c rest ih => rw [run,List.foldl_cons,← run,ih,callConfig]

theorem runNextSequence (s : Scheduler) (calls : List Call) :
    (s.run calls).nextSequence = s.nextSequence + calls.countP Call.isFlush := by
  induction calls generalizing s with
  | nil => rfl
  | cons c rest ih =>
    rw [run,List.foldl_cons,← run,ih,callNextSequence,List.countP_cons]
    omega

/-- The debounce laws for the next call after any run from a fresh scheduler, at a clock
reading no earlier than the run's: a batch is signalled only when due, never while one
drains, windows open only on a first look or a completion and stay put, and the batch taken
next is numbered one past the batches taken before. -/
theorem debounceMachineLaws (config : SchedulerConfig) (calls : List Call) (now : Nat)
    (upTo : ∀ c ∈ calls, c.now ≤ now) :
    let s := ({ config } : Scheduler).run calls
    (∀ n, (s.shouldFlush now n).1 = true →
      0 < n ∧ ∃ since, (s.shouldFlush now n).2.phase = .pending since ∧ since ≤ now ∧
        ({ config } : Scheduler).delay n ≤ now - since) ∧
    (s.phase = .flushing → ∀ n, (s.timeUntilFlush now n).1 = none ∧ (s.shouldFlush now n).1 = false ∧
      ∀ c : Call, (s.call c).phase ≠ .flushing → ∃ t len, c = .complete t len) ∧
    (∀ c since, (s.call c).phase = .pending since →
      (∃ len, c.observed? = some len ∧ 0 < len ∧
        (s.phase = .pending since ∨ s.phase = .idle ∧ since = c.now)) ∨
      ∃ len, c = .complete since len ∧ 0 < len) ∧
    (∀ since, s.phase = .pending since → ∀ c len, c.observed? = some len →
      (s.call c).phase = if len = 0 then .idle else .pending since) ∧
    ∀ pending, (s.flush pending now).1.sequence = calls.countP Call.isFlush + 1 := by
  intro s
  have fresh : ({ config } : Scheduler).OpenedBy now := fun since opened => by cases opened
  have openedBy : s.OpenedBy now := runOpenedBy calls fresh upTo
  refine ⟨?_,?_,fun c _ => windowSource s c,fun _ open_ _ _ => windowKept s open_,?_⟩
  · intro n due
    obtain ⟨positive,since,pending,waited⟩ := shouldFlushDue s now n due
    -- the look itself is a call at `now`, so the window it leaves opened by `now`
    have opened : since ≤ now :=
      callOpenedBy (.shouldFlush now n) openedBy (Nat.le_refl now) since pending
    rw [delayOfConfig (runConfig _ calls)] at waited
    exact ⟨positive,since,pending,opened,waited⟩
  · intro draining n
    obtain ⟨none_,quiet⟩ := flushingSignalsNothing s now n draining
    exact ⟨none_,quiet,fun c left => onlyCompleteEndsFlushing s draining left⟩
  · intro pending
    rw [flushSequence,runNextSequence]
    exact Nat.add_comm _ _

/-- A burst of fifteen changes, one batch taken at the end of its window and completed with
five changes left: the batch taken next is the second. -/
theorem secondBatchIsNumberedTwo :
    let p := PendingSet.new default 10 0
    let calls := [Call.shouldFlush 0 15, .shouldFlush 100 15, .flush p 100, .complete 100 5,
      .shouldFlush 400 5]
    (∀ c ∈ calls, c.now ≤ 400) ∧
      ((({ config := {} } : Scheduler).run calls).flush p 400).1.sequence = 2 := by
  intro p calls
  have upTo : ∀ c ∈ calls, c.now ≤ 400 := by decide
  exact ⟨upTo,(debounceMachineLaws {} calls 400 upTo).2.2.2.2 p⟩

end Scheduler

end LintWatch.Schedule
