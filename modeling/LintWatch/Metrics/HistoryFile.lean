import LintWatch.Metrics.History
import LintWatch.Json.Parse
import LintWatch.Json.Print
import LintWatch.Json.Schema
import LintWatch.Error
import LintWatch.FileSystem

/-! The history file: a JSON document `{"version": 1, "entries": [...]}` whose entries hold a
timestamp, the counters, the scores and the trend. Reading is strict: every counter and
score must be there with its type, a member given twice is refused, and only the trend may
be left out. A history is written to a file beside the target and then moved over it, so
the target always holds a whole document. -/
namespace LintWatch.Metrics

open Json

def Counters.toJson (c : Counters) : Json :=
  .obj [("files_changed", .ofNat c.filesChanged), ("violations_detected", .ofNat c.violationsDetected),
    ("critical_violations", .ofNat c.criticalViolations), ("warnings", .ofNat c.warnings),
    ("info_violations", .ofNat c.infoViolations), ("suggestions", .ofNat c.suggestions),
    ("clean_files", .ofNat c.cleanFiles), ("total_processing_time_ms", .ofNat c.totalProcessingMs)]

def Snapshot.toJson (s : Snapshot) : Json :=
  .obj [("effectiveness_score", .ofNat s.score), ("time_saved_hours", .float s.timeSavedHours),
    ("compliance_rate_pct", .float s.complianceRatePct),
    ("productivity_gain_pct", .float s.productivityGainPct),
    ("quality_improvement_pct", .float s.qualityImprovementPct),
    ("standards_adoption_pct", .float s.standardsAdoptionPct), ("roi_pct", .float s.roiPct)]

def Record.toJson (r : Record) : Json :=
  .obj [("timestamp", .str r.timestamp.render), ("counters", r.counters.toJson),
    ("effectiveness", r.snapshot.toJson), ("trend", .str r.trend.label)]

def History.toJson (h : History) : Json :=
  .obj [("version", .ofNat h.version), ("entries", .arr (h.entries.map Record.toJson))]

def readTimestamp : Json → Shaped Timestamp
  | .str s => match Timestamp.parse s with
    | some t => .ok t
    | none => expected "an RFC 3339 timestamp"
  | _ => expected "a timestamp string"

def readTrend : Json → Shaped Trend
  | .str s => match Trend.ofLabel? s with
    | some t => .ok t
    | none => .error ("unknown variant " ++ s)
  | _ => expected "a trend"

/-- A member that must be present exactly once. -/
def memberOnce (fields : List (String × Json)) (key : String) (read : Json → Shaped α) :
    Shaped α :=
  if (fields.filter (·.1 == key)).length > 1 then .error ("duplicate field " ++ key)
  else memberReq fields key read

/-- A member that may be missing but not repeated. -/
def memberAtMostOnce (fields : List (String × Json)) (key : String) (default : α)
    (read : Json → Shaped α) : Shaped α :=
  if (fields.filter (·.1 == key)).length > 1 then .error ("duplicate field " ++ key)
  else memberOr fields key default read

def countersOfFile (j : Json) : Shaped Counters := do
  let fs ← readObject j
  let n (key : String) := memberOnce fs key readU64
  return {
    filesChanged := ← n "files_changed"
    violationsDetected := ← n "violations_detected"
    criticalViolations := ← n "critical_violations"
    warnings := ← n "warnings"
    infoViolations := ← n "info_violations"
    suggestions := ← n "suggestions"
    cleanFiles := ← n "clean_files"
    totalProcessingMs := ← n "total_processing_time_ms" }

def snapshotOfFile (j : Json) : Shaped Snapshot := do
  let fs ← readObject j
  let x (key : String) := memberOnce fs key readF64
  return {
    score := ← memberOnce fs "effectiveness_score" readU32
    timeSavedHours := ← x "time_saved_hours"
    complianceRatePct := ← x "compliance_rate_pct"
    productivityGainPct := ← x "productivity_gain_pct"
    qualityImprovementPct := ← x "quality_improvement_pct"
    standardsAdoptionPct := ← x "standards_adoption_pct"
    roiPct := ← x "roi_pct" }

def recordOfFile (j : Json) : Shaped Record := do
  let fs ← readObject j
  return {
    timestamp := ← memberOnce fs "timestamp" readTimestamp
    counters := ← memberOnce fs "counters" countersOfFile
    snapshot := ← memberOnce fs "effectiveness" snapshotOfFile
    trend := ← memberAtMostOnce fs "trend" .stable readTrend }

def historyOfFile (j : Json) : Shaped History := do
  let fs ← readObject j
  return {
    version := ← memberOnce fs "version" readU32
    entries := ← memberOnce fs "entries" (readList recordOfFile) }

namespace History

/-- Reads the history file at `path`. -/
def load (fs : FileSystem) (path : String) : Except Error History := do
  let bytes ← (fs.read path).mapError fun _ => Error.io
  match String.fromUTF8? bytes with
  | none => .error .io
  | some text =>
    match Json.parse text with
    | .error _ => .error .historyFormat
    | .ok doc => (historyOfFile doc).mapError fun _ => Error.historyFormat

/-- The history at `path`, or an empty one when there is no file. -/
def loadOrDefault (fs : FileSystem) (path : String) : Except Error History :=
  if fs.present path then load fs path else .ok {}

/-- Writes the history to `path` through a file beside it, making the directories above. -/
def save (h : History) (fs : FileSystem) (path : String) : Except Error FileSystem := do
  let fs ← match Path.parent? path with
    | some dir => (fs.createDirAll dir).mapError fun _ => Error.io
    | none => .ok fs
  let staged := Path.withExtension path "json.tmp"
  let fs ← (fs.writeFile staged (.bytes (Json.pretty h.toJson).toUTF8)).mapError fun _ => Error.io
  (fs.rename staged path).mapError fun _ => Error.io

end History

/-- Where records are kept: a history file of bounded length. -/
structure HistorySink where
  path : String
  retention : Nat
  deriving Inhabited

namespace HistorySink

/-- Adds a record to the file: read, append, trim, write. -/
def persist (s : HistorySink) (fs : FileSystem) (r : Record) : Except Error FileSystem := do
  let h ← History.loadOrDefault fs s.path
  (h.push r s.retention).save fs s.path

/-- Fails when the file cannot be read as a history. -/
def verify (s : HistorySink) (fs : FileSystem) : Except Error Unit := do
  let _ ← History.loadOrDefault fs s.path
  .ok ()

end HistorySink

end LintWatch.Metrics
