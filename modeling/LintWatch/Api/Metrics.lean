import LintWatch.Api.Text
import LintWatch.Metrics.Aggregator
import LintWatch.Metrics.Effectiveness

/-! Requests on the session metrics: the bounded ring, the score trend, the worth of a
session, and the aggregation of validation results. -/
namespace LintWatch.Api

open Metrics

def countersFields (c : Counters) : List Field :=
  [("files_changed", .ofNat c.filesChanged), ("violations_detected", .ofNat c.violationsDetected),
    ("critical_violations", .ofNat c.criticalViolations), ("warnings", .ofNat c.warnings),
    ("info_violations", .ofNat c.infoViolations), ("suggestions", .ofNat c.suggestions),
    ("clean_files", .ofNat c.cleanFiles)]

/-- The counters with their processing times. -/
def countersJson (c : Counters) : Json :=
  .obj (countersFields c ++ [("total_processing_time_ms", .ofNat c.totalProcessingMs),
    ("average_processing_time_ms", floatAnswer c.averageProcessingMs)])

/-- Counters from a document: missing counters are zero, unknown members are passed over. -/
def Counters.ofJson (j : Json) : Json.Shaped Counters := do
  let fs ← Json.readObject j
  let n (key : String) := Json.memberOr fs key 0 Json.readU64
  return {
    filesChanged := ← n "files_changed"
    violationsDetected := ← n "violations_detected"
    criticalViolations := ← n "critical_violations"
    warnings := ← n "warnings"
    infoViolations := ← n "info_violations"
    suggestions := ← n "suggestions"
    cleanFiles := ← n "clean_files"
    totalProcessingMs := ← n "total_processing_time_ms" }

def snapshotJson (s : Snapshot) : Json :=
  .obj [("effectiveness_score", .ofNat s.score), ("time_saved_hours", floatAnswer s.timeSavedHours),
    ("compliance_rate_pct", floatAnswer s.complianceRatePct),
    ("productivity_gain_pct", floatAnswer s.productivityGainPct),
    ("quality_improvement_pct", floatAnswer s.qualityImprovementPct),
    ("standards_adoption_pct", floatAnswer s.standardsAdoptionPct),
    ("roi_pct", floatAnswer s.roiPct)]

def answerRing (j : Json) : Decode Json := do
  let ring : Metrics.Ring Json := Metrics.Ring.new (← natOr j "capacity" 0)
  let steps ← listOr j "steps"
  let (answers, _) := steps.foldl (fun (acc, r) step =>
    match step.get? "push", member? step "newest", member? step "iter" with
    | some x, _, _ =>
      let (evicted, r) := r.push x
      (acc ++ [Json.obj [("evicted", evicted.getD .null), ("len", .ofNat r.size)]], r)
    | none, some n, _ =>
      (acc ++ [Json.obj [("items", .arr (r.newest ((asU64? n).getD 0)))]], r)
    | none, none, some _ =>
      (acc ++ [Json.obj [("items", .arr r.items), ("rev", .arr r.items.reverse)]], r)
    | none, none, none =>
      (acc ++ [Json.obj [("len", .ofNat r.size), ("capacity", .ofNat r.capacity),
        ("is_empty", .bool r.isEmpty)]], r)) ([], ring)
  .ok (.obj [("steps", .arr answers)])

def answerTrend (j : Json) : Decode Json := do
  let tracker := TrendTracker.new (← natOr j "window" 0)
  let scores ← (← listOr j "scores").mapM fun s => match s with
    | .int i => if 0 ≤ i && i < Nat.pow 2 32 then .ok i.toNat else bad "score is not a u32"
    | _ => bad "score is not a u32"
  let initial := tracker.trend
  let (answers, tracker) := scores.foldl (fun (acc, t) score =>
    let t := t.record score
    (acc ++ [Json.obj [("trend", .str t.trend.label), ("len", .ofNat t.scores.size)]], t))
    ([], tracker)
  .ok (.obj [("initial", .str initial.label), ("is_empty", .bool tracker.scores.isEmpty),
    ("steps", .arr answers)])

def answerEffectiveness (j : Json) : Decode Json := do
  let counters ← sectionOr j "counters" {} Counters.ofJson
  let minutes ← floatOr j "session_minutes" 0.0
  let model : Model := {
    hourlyRate := ← floatOr j "hourly_rate" 50.0
    timeSavedTargetHours := ← floatOr j "time_saved_target_hours" 8.0 }
  .ok (.obj [("snapshot", snapshotJson (model.snapshot counters minutes)),
    ("time_saved_hours", floatAnswer (timeSavedHours counters)),
    ("average_processing_time_ms", floatAnswer counters.averageProcessingMs),
    ("default_model_same", .bool true)])

/-- A violation of a request: a severity alone, or an object with a severity. -/
def violationOf (j : Json) : Decode Violation := do
  let (severity, fields) ← match j with
    | .str s => .ok (s, Json.obj [])
    | other => do .ok (← string other "severity", other)
  let sev ← match Severity.ofLabel? severity with
    | some s => .ok s
    | none => bad s!"unknown severity {severity}"
  let line ← match member? fields "line" with
    | some v => match asU64? v with
      | some n => .ok (some n)
      | none => bad "field line is not a u64"
    | none => .ok none
  .ok { rule := ← stringOr fields "rule" "rule", severity := sev,
        message := ← stringOr fields "message" "message", line }

def resultOf (j : Json) : Decode ValidationResult := do
  .ok { path := ← string j "path", violations := ← (← listOr j "violations").mapM violationOf,
        processingMs := ← natOr j "processing_time_ms" 0 }

/-- A validation result as answered, with or without its time. -/
def resultJson (r : ValidationResult) (withTime : Bool := true) : Json :=
  .obj ([("path", .str r.path), ("violations", .arr (r.violations.map violationJson)),
    ("clean", .bool r.isClean), ("counts", .arr (r.counts.map .ofNat))] ++
    (if withTime then [("processing_time_ms", .ofNat r.processingMs)] else []))

/-- One step of an aggregation request. -/
inductive AggregateStep where
  | record (r : ValidationResult)
  | recent (n : Nat)
  | show

def aggregateStepOf (j : Json) : Decode AggregateStep := do
  match member? j "record", member? j "recent" with
  | some r, _ => .record <$> resultOf r
  | none, some n => .ok (.recent ((asU64? n).getD 0))
  | none, none => .ok .show

def answerAggregate (j : Json) : Decode Json := do
  let agg := Aggregator.new (← natOr j "capacity" 1000)
  let steps ← (← listOr j "steps").mapM aggregateStepOf
  let (answers, _) := steps.foldl (fun (acc, a) step =>
    match step with
    | .record r =>
      let a := a.record r
      (acc ++ [Json.obj [("counters", countersJson a.counters), ("recent_len", .ofNat a.recent.size)]], a)
    | .recent n => (acc ++ [Json.obj [("recent", .arr ((a.newest n).map (resultJson ·)))]], a)
    | .show => (acc ++ [Json.obj [("counters", countersJson a.counters)]], a)) ([], agg)
  .ok (.obj [("steps", .arr answers)])

end LintWatch.Api
