/-! The settings of a watch: how changes are batched, what resources a batch may use, how
paths are classified, what is watched, how results are scored and kept, and how long a
stop may take. Every section and every key is optional in a settings file; what is left
out takes the defaults below. -/
namespace LintWatch

/-- Batching and debounce settings. -/
structure SchedulerConfig where
  /-- Queue depth at which the standard delay applies. -/
  batchSizeTarget : Nat := 5
  /-- Most entries in one batch; reaching it brings the burst delay. -/
  maxBatchSize : Nat := 10
  standardDelayMs : Nat := 300
  burstDelayMs : Nat := 100
  /-- How often the background loop looks at the queue. -/
  tickMs : Nat := 50
  /-- Pending paths kept before the oldest are dropped. -/
  maxPending : Nat := 10000
  /-- Each full interval of this many seconds in the queue adds one to a change's priority. -/
  ageBoostSecs : Nat := 10
  deriving Repr, BEq, Inhabited

namespace SchedulerConfig

/-- The delay for a trickle of edits: one and a half standard delays. -/
def trickleDelayMs (c : SchedulerConfig) : Nat := c.standardDelayMs + c.standardDelayMs / 2

def tickIntervalMs (c : SchedulerConfig) : Nat := max c.tickMs 1

def ageBoostMs (c : SchedulerConfig) : Nat := c.ageBoostSecs * 1000

end SchedulerConfig

/-- Resource budgets. -/
structure GuardConfig where
  /-- Memory of the process above which work is put off. -/
  maxHeapMb : Nat := 500
  /-- Validation time allowed in one batch. -/
  maxBatchTimeMs : Nat := 5000
  /-- Validations run at once in a batch. -/
  maxWorkers : Nat := 4
  /-- Optional ceiling on processor use, in percent of one core. -/
  maxCpuPercent : Option Float32 := none
  /-- Files larger than this are never read. -/
  maxFileSizeBytes : Nat := 1048576
  /-- Reads slower than this fail. -/
  readTimeoutMs : Nat := 2000
  deriving Inhabited

/-- The heap budget in bytes, at most the largest 64-bit word. -/
def GuardConfig.maxHeapBytes (c : GuardConfig) : Nat := min (c.maxHeapMb * 1048576) (Nat.pow 2 64 - 1)

/-- Globs that rank changed paths. -/
structure ClassifyConfig where
  sourcePatterns : List String :=
    ["src/**", "**/src/**", "lib/**", "**/lib/**", "app/**", "**/app/**"]
  configPatterns : List String :=
    ["**/*.toml", "**/*.json", "**/*.yaml", "**/*.yml", "**/*.ini", "**/.env*", "**/*config*"]
  testPatterns : List String :=
    ["**/test/**", "**/tests/**", "**/__tests__/**", "**/*_test.*", "**/*.test.*", "**/*.spec.*",
      "**/test_*"]
  deriving Repr, BEq, Inhabited

/-- What the change detector passes on. -/
structure WatchConfig where
  /-- Extensions to validate; empty means the built-in list. -/
  extensions : List String := []
  /-- Paths to leave alone while watching and scanning. -/
  ignorePatterns : List String :=
    ["**/node_modules/**", "**/target/**", "**/build/**", "**/dist/**", "**/.git/**",
      "**/*.min.js", "**/*.bundle.js", "**/.sentinel/**"]
  /-- Queue every supported file once when the watch starts. -/
  initialScan : Bool := false
  deriving Repr, BEq, Inhabited

/-- Scoring and history settings. -/
structure MetricsConfig where
  /-- Results kept for questions about recent activity. -/
  recentCapacity : Nat := 1000
  /-- Cost of an hour of a developer's time. -/
  hourlyRate : Float := 50.0
  /-- Hours saved that count as a full score. -/
  timeSavedTargetHours : Float := 8.0
  /-- Scores kept to tell the trend. -/
  trendWindow : Nat := 20
  /-- The history file; a relative path is read below the data directory. -/
  historyPath : String := "metrics-history.json"
  historyRetention : Nat := 100
  snapshotIntervalSecs : Nat := 60
  deriving Inhabited

structure ShutdownConfig where
  /-- How long validations under way may still run after a stop. -/
  graceMs : Nat := 5000
  deriving Repr, BEq, Inhabited

/-- All settings of a watch. -/
structure Settings where
  scheduler : SchedulerConfig := {}
  guard : GuardConfig := {}
  classify : ClassifyConfig := {}
  watch : WatchConfig := {}
  metrics : MetricsConfig := {}
  shutdown : ShutdownConfig := {}
  deriving Inhabited

/-- The directory below a watched root that holds the settings and the history. -/
def dataDir : String := ".sentinel"

def settingsFileName : String := "sentinel.toml"

end LintWatch
