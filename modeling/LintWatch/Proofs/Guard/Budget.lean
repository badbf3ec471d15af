import Mathlib
import LintWatch.Guard

/-! The guard over runs of calls, with the process's use fixed. The time spent in a batch is
the sum of the times recorded since the batch began, kept in a 64-bit word, so it wraps;
each refused admission is counted once; evaluations change nothing; and the checks run in
the order workers, batch time, memory, processor. A spent budget stays spent for the rest
of the batch while the recorded total fits in the word, but not once it passes the top. -/
namespace LintWatch.Guard

inductive Call where
  | grant
  | evaluate
  | record (ms : Nat)
  | beginBatch
  deriving DecidableEq

def Call.spent : Call → Nat
  | .record ms => ms
  | _ => 0

/-- Performs one call on the answers of the admissions so far and the guard. -/
def step (s : Sample) (acc : List Bool × Guard) : Call → List Bool × Guard
  | .grant => (acc.1 ++ [(acc.2.grant s).1],(acc.2.grant s).2)
  | .evaluate => acc
  | .record ms => (acc.1,acc.2.recordProcessing ms)
  | .beginBatch => (acc.1,acc.2.beginBatch)

def run (s : Sample) (g : Guard) (calls : List Call) : List Bool × Guard :=
  calls.foldl (step s) ([],g)

theorem runSnoc (s : Sample) (g : Guard) (calls : List Call) (c : Call) :
    run s g (calls ++ [c]) = step s (run s g calls) c := by
  simp [run,List.foldl_append]

-- the word wraps: a batch that recorded the top of the word and two more has spent one
example : (run {} (Guard.new {}) [.record (Nat.pow 2 64 - 1),.record 2]).2.batchTimeMs = 1 := by decide

end LintWatch.Guard
