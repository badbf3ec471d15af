import LintWatch.Api.Scheduler
import LintWatch.Api.Metrics
import LintWatch.Metrics.HistoryFile

/-! Requests on the history of a watch: a history read from a file in the working
directory, then steps that add to it, query it, write it, and go through the history
sink. -/
namespace LintWatch.Api

open Metrics

/-- The history file of requests. -/
def historyFilePath : String := requestPath "history/metrics-history.json"

/-- The timestamp of a record that gives none. -/
def defaultTimestamp : Timestamp := ⟨Timestamp.daysFromCivil 2026 1 1, 0, 0⟩

def zeroSnapshot : Snapshot := ⟨0, 0, 0, 0, 0, 0, 0⟩

/-- Scores from a document: missing scores are zero. -/
def snapshotOf (j : Json) : Json.Shaped Snapshot := do
  let fs ← Json.readObject j
  let x (key : String) := Json.memberOr fs key 0.0 Json.readF64
  return {
    score := ← Json.memberOr fs "effectiveness_score" 0 Json.readU32
    timeSavedHours := ← x "time_saved_hours"
    complianceRatePct := ← x "compliance_rate_pct"
    productivityGainPct := ← x "productivity_gain_pct"
    qualityImprovementPct := ← x "quality_improvement_pct"
    standardsAdoptionPct := ← x "standards_adoption_pct"
    roiPct := ← x "roi_pct" }

/-- A record of a request: missing parts take their defaults, and counters and scores given
in part are merged over zeros. -/
def recordOf (j : Json) : Decode Record := do
  let timestamp ← match member? j "timestamp" with
    | none => .ok defaultTimestamp
    | some v => shaped (readTimestamp v)
  let trend ← match member? j "trend" with
    | none => .ok .stable
    | some v => shaped (readTrend v)
  .ok { timestamp, trend
        counters := ← sectionOr j "counters" {} Counters.ofJson
        snapshot := ← sectionOr j "effectiveness" zeroSnapshot snapshotOf }

/-- The state of a history request: the tree, and the history in memory. -/
structure HistoryRun where
  tree : FileSystem
  history : History
  sink : HistorySink

/-- The history file as a document, or `null` when there is none. -/
def HistoryRun.fileJson (r : HistoryRun) : Json :=
  match r.tree.read r.sink.path with
  | .ok bytes => match String.fromUTF8? bytes with
    | some text => (Json.parse text).toOption.getD .null
    | none => .null
  | .error _ => .null

def recordsJson (rs : List Record) : Json := .arr (rs.map Record.toJson)

def HistoryRun.step (r : HistoryRun) (step : Json) : Decode (List Field × HistoryRun) := do
  let op ← stringOr step "op" ""
  match op with
  | "push" =>
    let record ← recordOf ((member? step "record").getD (.obj []))
    let retention ← natOr step "retention" r.sink.retention
    let history := r.history.push record retention
    .ok ([("len", .ofNat history.size)], { r with history })
  | "last_n" =>
    let n ← natOr step "n" 0
    .ok ([("records", recordsJson (r.history.lastN n))], r)
  | "latest" =>
    .ok ([("record", (r.history.latest.map Record.toJson).getD .null)], r)
  | "entries" =>
    .ok ([("is_empty", .bool r.history.isEmpty), ("records", recordsJson r.history.entries)], r)
  | "save" =>
    let r := { r with tree := ← lift (r.history.save r.tree r.sink.path) }
    .ok ([("file", r.fileJson)], r)
  | "persist" =>
    let record ← recordOf ((member? step "record").getD (.obj []))
    .ok ([], { r with tree := ← lift (r.sink.persist r.tree record) })
  | "verify" =>
    lift (r.sink.verify r.tree)
    .ok ([], r)
  | "load" =>
    let history ← lift (History.loadOrDefault r.tree r.sink.path)
    .ok ([("len", .ofNat history.size)], { r with history })
  | "file" => .ok ([("file", r.fileJson)], r)
  | _ => bad s!"unknown history step {op}"

def answerHistory (j : Json) : Decode Json := do
  let tree ← match member? j "file" with
    | some (.str text) => liftIo (freshTree.writeFileAll historyFilePath (.bytes text.toUTF8))
    | _ => .ok freshTree
  let history ← (History.loadOrDefault tree historyFilePath).mapError fun _ =>
    Rejection.failed .historyFormat
  let sink : HistorySink := { path := historyFilePath, retention := ← natOr j "retention" 100 }
  let steps ← listOr j "steps"
  let run : HistoryRun := { tree, history, sink }
  .ok (.obj [("steps", .arr (runSteps HistoryRun.step (fun _ => []) run steps))])

end LintWatch.Api
