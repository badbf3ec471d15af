import LintWatch.Config.Basic
import LintWatch.Json.Schema

/-! Settings read from a document. Each section is an object whose members are named as in
the settings file; a missing member keeps its default, an unknown one is passed over, and a
member of the wrong type (a negative count, a string for a number, `null` for anything but
the processor ceiling) makes the whole document unreadable. -/
namespace LintWatch

open Json

def SchedulerConfig.ofJson (j : Json) : Shaped SchedulerConfig := do
  let fs ← readObject j
  let d : SchedulerConfig := {}
  return {
    batchSizeTarget := ← memberOr fs "batch_size_target" d.batchSizeTarget readU64
    maxBatchSize := ← memberOr fs "max_batch_size" d.maxBatchSize readU64
    standardDelayMs := ← memberOr fs "standard_delay_ms" d.standardDelayMs readU64
    burstDelayMs := ← memberOr fs "burst_delay_ms" d.burstDelayMs readU64
    tickMs := ← memberOr fs "tick_ms" d.tickMs readU64
    maxPending := ← memberOr fs "max_pending" d.maxPending readU64
    ageBoostSecs := ← memberOr fs "age_boost_secs" d.ageBoostSecs readU64 }

def GuardConfig.ofJson (j : Json) : Shaped GuardConfig := do
  let fs ← readObject j
  let d : GuardConfig := {}
  return {
    maxHeapMb := ← memberOr fs "max_heap_mb" d.maxHeapMb readU64
    maxBatchTimeMs := ← memberOr fs "max_batch_time_ms" d.maxBatchTimeMs readU64
    maxWorkers := ← memberOr fs "max_workers" d.maxWorkers readU64
    maxCpuPercent := ← memberOr fs "max_cpu_percent" d.maxCpuPercent (readOption readF32)
    maxFileSizeBytes := ← memberOr fs "max_file_size_bytes" d.maxFileSizeBytes readU64
    readTimeoutMs := ← memberOr fs "read_timeout_ms" d.readTimeoutMs readU64 }

def ClassifyConfig.ofJson (j : Json) : Shaped ClassifyConfig := do
  let fs ← readObject j
  let d : ClassifyConfig := {}
  return {
    sourcePatterns := ← memberOr fs "source_patterns" d.sourcePatterns (readList readString)
    configPatterns := ← memberOr fs "config_patterns" d.configPatterns (readList readString)
    testPatterns := ← memberOr fs "test_patterns" d.testPatterns (readList readString) }

def WatchConfig.ofJson (j : Json) : Shaped WatchConfig := do
  let fs ← readObject j
  let d : WatchConfig := {}
  return {
    extensions := ← memberOr fs "extensions" d.extensions (readList readString)
    ignorePatterns := ← memberOr fs "ignore_patterns" d.ignorePatterns (readList readString)
    initialScan := ← memberOr fs "initial_scan" d.initialScan readBool }

def MetricsConfig.ofJson (j : Json) : Shaped MetricsConfig := do
  let fs ← readObject j
  let d : MetricsConfig := {}
  return {
    recentCapacity := ← memberOr fs "recent_capacity" d.recentCapacity readU64
    hourlyRate := ← memberOr fs "hourly_rate" d.hourlyRate readF64
    timeSavedTargetHours := ← memberOr fs "time_saved_target_hours" d.timeSavedTargetHours readF64
    trendWindow := ← memberOr fs "trend_window" d.trendWindow readU64
    historyPath := ← memberOr fs "history_path" d.historyPath readString
    historyRetention := ← memberOr fs "history_retention" d.historyRetention readU64
    snapshotIntervalSecs := ← memberOr fs "snapshot_interval_secs" d.snapshotIntervalSecs readU64 }

def ShutdownConfig.ofJson (j : Json) : Shaped ShutdownConfig := do
  let fs ← readObject j
  return { graceMs := ← memberOr fs "grace_ms" ({} : ShutdownConfig).graceMs readU64 }

def Settings.ofJson (j : Json) : Shaped Settings := do
  let fs ← readObject j
  return {
    scheduler := ← memberOr fs "scheduler" {} SchedulerConfig.ofJson
    guard := ← memberOr fs "guard" {} GuardConfig.ofJson
    classify := ← memberOr fs "classify" {} ClassifyConfig.ofJson
    watch := ← memberOr fs "watch" {} WatchConfig.ofJson
    metrics := ← memberOr fs "metrics" {} MetricsConfig.ofJson
    shutdown := ← memberOr fs "shutdown" {} ShutdownConfig.ofJson }

end LintWatch
