import LintWatch.Config.Basic
import LintWatch.Json.Value
import LintWatch.Toml.Value

/-! Settings written out, with the members named as in the settings file. In a JSON document
an absent processor ceiling is `null`; in a TOML document it is left out, since TOML has no
null. The single-precision ceiling is written as the double it widens to. -/
namespace LintWatch

namespace Settings

def schedulerJson (c : SchedulerConfig) : Json :=
  .obj [("batch_size_target", .ofNat c.batchSizeTarget), ("max_batch_size", .ofNat c.maxBatchSize),
    ("standard_delay_ms", .ofNat c.standardDelayMs), ("burst_delay_ms", .ofNat c.burstDelayMs),
    ("tick_ms", .ofNat c.tickMs), ("max_pending", .ofNat c.maxPending),
    ("age_boost_secs", .ofNat c.ageBoostSecs)]

def guardJson (c : GuardConfig) : Json :=
  .obj [("max_heap_mb", .ofNat c.maxHeapMb), ("max_batch_time_ms", .ofNat c.maxBatchTimeMs),
    ("max_workers", .ofNat c.maxWorkers),
    ("max_cpu_percent", match c.maxCpuPercent with
      | some x => .float x.toFloat
      | none => .null),
    ("max_file_size_bytes", .ofNat c.maxFileSizeBytes), ("read_timeout_ms", .ofNat c.readTimeoutMs)]

def stringsJson (xs : List String) : Json := .arr (xs.map .str)

def classifyJson (c : ClassifyConfig) : Json :=
  .obj [("source_patterns", stringsJson c.sourcePatterns),
    ("config_patterns", stringsJson c.configPatterns), ("test_patterns", stringsJson c.testPatterns)]

def watchJson (c : WatchConfig) : Json :=
  .obj [("extensions", stringsJson c.extensions), ("ignore_patterns", stringsJson c.ignorePatterns),
    ("initial_scan", .bool c.initialScan)]

def metricsJson (c : MetricsConfig) : Json :=
  .obj [("recent_capacity", .ofNat c.recentCapacity), ("hourly_rate", .float c.hourlyRate),
    ("time_saved_target_hours", .float c.timeSavedTargetHours),
    ("trend_window", .ofNat c.trendWindow), ("history_path", .str c.historyPath),
    ("history_retention", .ofNat c.historyRetention),
    ("snapshot_interval_secs", .ofNat c.snapshotIntervalSecs)]

/-- The settings as a JSON document. -/
def toJson (s : Settings) : Json :=
  .obj [("scheduler", schedulerJson s.scheduler), ("guard", guardJson s.guard),
    ("classify", classifyJson s.classify), ("watch", watchJson s.watch),
    ("metrics", metricsJson s.metrics),
    ("shutdown", .obj [("grace_ms", .ofNat s.shutdown.graceMs)])]

mutual
/-- A JSON document as TOML; members that are `null` are left out. -/
def tomlOfJson : Json → Toml.Value
  | .null => .table []
  | .bool b => .bool b
  | .int i => .int i
  | .float x => .float x
  | .str s => .str s
  | .arr items => .arr (tomlItems items)
  | .obj fields => .table (tomlFields fields)

def tomlItems : List Json → List Toml.Value
  | [] => []
  | j :: js => tomlOfJson j :: tomlItems js

def tomlFields : List (String × Json) → List (String × Toml.Value)
  | [] => []
  | (_, .null) :: rest => tomlFields rest
  | (k, j) :: rest => (k, tomlOfJson j) :: tomlFields rest
end

/-- The settings as the members of a TOML document. -/
def toToml (s : Settings) : List (String × Toml.Value) :=
  match s.toJson with
  | .obj fields => tomlFields fields
  | _ => []

end Settings

end LintWatch
