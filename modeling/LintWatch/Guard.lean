import LintWatch.Config.Basic
import LintWatch.Decimal.Render

/-! Resource budgets. Before a file is validated the guard checks, in order, that workers are
allowed at all, that the batch has time left, that the process's memory is below its budget,
and that its processor use is below the ceiling, if one is set; each budget is spent once
use reaches it. A refusal puts the file off. Files above the size limit are never read. -/
namespace LintWatch

/-- What a file's size allows. -/
inductive SizeCheck where
  | accepted (sizeBytes : Nat)
  | tooLarge (sizeBytes limitBytes : Nat)
  deriving Repr, BEq, DecidableEq

def checkSize (maxBytes sizeBytes : Nat) : SizeCheck :=
  if sizeBytes > maxBytes then .tooLarge sizeBytes maxBytes else .accepted sizeBytes

/-- The process's use of memory and processor at one moment. -/
structure Sample where
  heapBytes : Nat := 0
  cpuPercent : Float32 := 0.0
  deriving Inhabited

/-- Why work was put off. -/
inductive Refusal where
  | noWorkers
  | batchTime (spentMs limitMs : Nat)
  | heap (usedBytes limitBytes : Nat)
  | cpu (usagePercent limitPercent : Float32)
  deriving Inhabited

inductive Admission where
  | admitted
  | refused (r : Refusal)
  deriving Inhabited

/-- The budgets, the validation time spent in the current batch, and the refusals so far. -/
structure Guard where
  maxHeapBytes : Nat
  maxBatchTimeMs : Nat
  maxWorkers : Nat
  maxCpuPercent : Option Float32
  batchTimeMs : Nat := 0
  refusals : Nat := 0
  deriving Inhabited

namespace Guard

def new (c : GuardConfig) : Guard :=
  { maxHeapBytes := c.maxHeapBytes, maxBatchTimeMs := c.maxBatchTimeMs
    maxWorkers := c.maxWorkers, maxCpuPercent := c.maxCpuPercent }

/-- A new batch starts with no time spent. -/
def beginBatch (g : Guard) : Guard := { g with batchTimeMs := 0 }

/-- Adds validation time to the batch; the total wraps at `2 ^ 64`. -/
def recordProcessing (g : Guard) (ms : Nat) : Guard :=
  { g with batchTimeMs := (g.batchTimeMs + ms) % Nat.pow 2 64 }

def evaluate (g : Guard) (s : Sample) : Admission :=
  if g.maxWorkers == 0 then .refused .noWorkers
  else if g.batchTimeMs ≥ g.maxBatchTimeMs then .refused (.batchTime g.batchTimeMs g.maxBatchTimeMs)
  else if s.heapBytes ≥ g.maxHeapBytes then .refused (.heap s.heapBytes g.maxHeapBytes)
  else match g.maxCpuPercent with
    | some limit => if s.cpuPercent ≥ limit then .refused (.cpu s.cpuPercent limit) else .admitted
    | none => .admitted

/-- Whether work may go on; a refusal is counted. -/
def grant (g : Guard) (s : Sample) : Bool × Guard :=
  match g.evaluate s with
  | .admitted => (true, g)
  | .refused _ => (false, { g with refusals := g.refusals + 1 })

/-- The guard's diagnostic text: its budgets and the time spent in the batch. -/
def debugText (g : Guard) : String :=
  let cpu := match g.maxCpuPercent with
    | some x => "Some(" ++ Decimal.debugText32 x ++ ")"
    | none => "None"
  "ResourceGuard \x7b max_heap_bytes: " ++ toString g.maxHeapBytes ++ ", max_batch_time_ms: " ++
    toString g.maxBatchTimeMs ++ ", max_workers: " ++ toString g.maxWorkers ++
    ", max_cpu_percent: " ++ cpu ++ ", batch_time_ms: " ++ toString g.batchTimeMs ++ " \x7d"

end Guard

end LintWatch
