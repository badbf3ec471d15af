import LintWatch.Schedule.Debounce
import LintWatch.Config.Check

/-! The debounce delays for a queue's length. The checks on the settings order the queue
depths, a batch target between one and the batch size, but not the delays: the trickle
delay is half again the standard delay, while the burst delay is a setting of its own. So
the wait shrinks as the queue grows exactly when the burst delay is at most the delay of the
depths just below a full batch: the standard delay, or the trickle delay when the target is
the batch size itself. -/
namespace LintWatch

/-- What the settings' checks ask of the scheduler section. -/
def SchedulerConfig.Checked (c : SchedulerConfig) : Prop :=
  0 < c.maxBatchSize ∧ 0 < c.batchSizeTarget ∧ c.batchSizeTarget ≤ c.maxBatchSize ∧
    c.maxBatchSize ≤ c.maxPending

instance (c : SchedulerConfig) : Decidable c.Checked := inferInstanceAs (Decidable (_ ∧ _))

theorem Settings.validateChecksScheduler {s : Settings} (valid : s.validate = .ok ()) :
    s.scheduler.Checked := by
  have clean : s.problem? = none := by
    unfold validate at valid
    cases problem : s.problem? with
    | none => rfl
    | some reason =>
      rw [problem] at valid
      cases valid
  -- the first three checks are the scheduler's, and none of them failed
  simp only [problem?] at clean
  split at clean
  · cases clean
  rename_i sized
  split at clean
  · cases clean
  rename_i targeted
  split at clean
  · cases clean
  rename_i roomy
  simp only [beq_iff_eq,Bool.or_eq_true,decide_eq_true_eq,not_or] at sized targeted
  exact ⟨Nat.pos_of_ne_zero sized,Nat.pos_of_ne_zero targeted.1,Nat.le_of_not_lt targeted.2,
    Nat.le_of_not_lt roomy⟩

namespace Schedule.Scheduler

-- a burst delay above the standard one passes the checks, and a full batch then waits longer
example : let s : Scheduler := { config := { burstDelayMs := 500 } }
    s.config.Checked ∧ s.delay 5 < s.delay 10 := by decide

end Schedule.Scheduler

end LintWatch
