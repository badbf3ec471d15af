import LintWatch.Config.Basic
import LintWatch.Error
import LintWatch.Path

/-! What makes settings usable, and when two settings are the same. The scheduler needs a
batch of at least one entry, a target depth within the batch size and a queue that holds a
full batch; the results kept and the hours that count as a full score must be positive.
A float that is not a number passes the check but is never the same as itself. -/
namespace LintWatch

namespace Settings

/-- The first rule the settings break. -/
def problem? (s : Settings) : Option String :=
  let c := s.scheduler
  if c.maxBatchSize == 0 then some "scheduler.max_batch_size must be at least 1"
  else if c.batchSizeTarget == 0 || c.batchSizeTarget > c.maxBatchSize then
    some ("scheduler.batch_size_target must be between 1 and max_batch_size (" ++
      toString c.maxBatchSize ++ ")")
  else if c.maxPending < c.maxBatchSize then
    some "scheduler.max_pending must be at least max_batch_size"
  else if s.metrics.recentCapacity == 0 then some "metrics.recent_capacity must be at least 1"
  else if s.metrics.timeSavedTargetHours ≤ 0.0 then
    some "metrics.time_saved_target_hours must be positive"
  else none

def validate (s : Settings) : Except Error Unit :=
  match s.problem? with
  | some reason => .error (.invalidConfig reason)
  | none => .ok ()

/-- The history file: the configured path if absolute, otherwise below the data directory
of `root`. -/
def historyFile (s : Settings) (root : String) : String :=
  if Path.isAbsolute s.metrics.historyPath then s.metrics.historyPath
  else Path.join (Path.join root dataDir) s.metrics.historyPath

/-- Field-by-field equality, floats compared as numbers and paths by their components. -/
def same (a b : Settings) : Bool :=
  a.scheduler == b.scheduler &&
  a.guard.maxHeapMb == b.guard.maxHeapMb &&
  a.guard.maxBatchTimeMs == b.guard.maxBatchTimeMs &&
  a.guard.maxWorkers == b.guard.maxWorkers &&
  (match a.guard.maxCpuPercent, b.guard.maxCpuPercent with
    | some x, some y => x == y
    | none, none => true
    | _, _ => false) &&
  a.guard.maxFileSizeBytes == b.guard.maxFileSizeBytes &&
  a.guard.readTimeoutMs == b.guard.readTimeoutMs &&
  a.classify == b.classify &&
  a.watch == b.watch &&
  a.metrics.recentCapacity == b.metrics.recentCapacity &&
  a.metrics.hourlyRate == b.metrics.hourlyRate &&
  a.metrics.timeSavedTargetHours == b.metrics.timeSavedTargetHours &&
  a.metrics.trendWindow == b.metrics.trendWindow &&
  Path.same a.metrics.historyPath b.metrics.historyPath &&
  a.metrics.historyRetention == b.metrics.historyRetention &&
  a.metrics.snapshotIntervalSecs == b.metrics.snapshotIntervalSecs &&
  a.shutdown == b.shutdown

end Settings

end LintWatch
