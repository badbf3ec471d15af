import LintWatch.Api.Scheduler
import LintWatch.Api.Metrics
import LintWatch.Api.Config
import LintWatch.Service.Core

/-! Requests that drive a validation service over the working directory: changes queued
directly or seen by the watcher, batches processed on request or by the background loop,
and the metrics of the session. -/
namespace LintWatch.Api

open Schedule Metrics Service

/-- Wall-clock time at which request services are made: 2026-01-01 in milliseconds. -/
def serviceWallStartMs : Nat := 1767225600000

/-- The state of a service request: the service, the paths the request names, and whether
the watcher is attached when the service starts. -/
structure ServiceRun where
  service : Service.Service
  named : List String
  watching : Bool

/-- A validation result as answered: the path below the working directory, no time. -/
def serviceResultJson (r : ValidationResult) : Json :=
  resultJson { r with path := shownPath r.path } false

def reportJson (r : Report) : Json :=
  let results := r.results.mergeSort fun a b => shownPath a.path ≤ shownPath b.path
  .obj [("sequence", .ofNat r.sequence), ("validated", .ofNat r.validated),
    ("results", .arr (results.map serviceResultJson)), ("deferred", .ofNat r.deferred),
    ("failed", .ofNat r.failed), ("skipped", .ofNat r.skipped), ("unchanged", .ofNat r.unchanged)]

/-- A record as answered: its counters without time, its scores and its trend. -/
def recordJson (r : Record) : Json :=
  .obj [("counters", .obj (countersFields r.counters)), ("effectiveness", r.snapshot.toJson),
    ("trend", .str r.trend.label)]

/-- The answer fields of a failure. -/
def failureFields (e : Error) : List Field :=
  match (Rejection.failed e).answer with
  | .obj fs => fs
  | _ => []

/-- A library result: its fields, or the failure's. -/
def outcomeFields (r : Except Error (List Field)) : List Field :=
  match r with
  | .ok fs => fs
  | .error e => failureFields e

namespace ServiceRun

/-- The pending entries among the paths the request names, by path. -/
def dump (r : ServiceRun) : List Entry :=
  let found := r.named.filterMap r.service.pending.get?
  let unique := found.foldl (fun acc e => if acc.any (·.path == e.path) then acc else e :: acc) []
  unique.mergeSort fun a b => shownPath a.path ≤ shownPath b.path

def dumpJson (r : ServiceRun) : Json := .arr (r.dump.map (entryJson · false))

def countersJson (s : Service.Service) : Json := .obj (countersFields s.aggregator.counters)

/-- The newest results, newest first; by path when several workers validate at once. -/
def recentJson (r : ServiceRun) (n : Nat) : Json :=
  let rs := r.service.aggregator.newest n
  let rs := if r.service.settings.guard.maxWorkers > 1 then
      rs.mergeSort fun a b => shownPath a.path ≤ shownPath b.path
    else rs
  .arr (rs.map serviceResultJson)

def withService (r : ServiceRun) (s : Service.Service) : ServiceRun := { r with service := s }

/-- A file operation: the service after it, or the failure. -/
def fileStep (r : ServiceRun) (op : Except IoError Service.Service) : List Field × ServiceRun :=
  match op with
  | .ok s => ([], r.withService s)
  | .error _ => (failureFields .io, r)

/-- One step: the fields it answers and the state after it. -/
def step (r : ServiceRun) (step : Json) : Decode (List Field × ServiceRun) := do
  let s := r.service
  match ← stringOr step "op" "" with
  | "write" =>
    let path := requestPath (← string step "path")
    let content ← match member? step "file" with
      | some spec => fileContent spec
      | none => bad "missing file"
    .ok (r.fileStep (s.write path content))
  | "delete" =>
    match s.delete (requestPath (← string step "path")) with
    | .ok s => .ok ([], r.withService s)
    | .error _ => .ok ([], r)
  | "rename" =>
    let source := requestPath (← string step "from")
    let target := requestPath (← string step "to")
    match s.rename source target with
    | .ok s => .ok ([("ok", .bool true)], r.withService s)
    | .error _ => .ok ([("ok", .bool false)], r)
  | "enqueue" =>
    let path := requestPath (← string step "path")
    let change : Change := ⟨path, ← kindOr step, ← natOr step "detected_ms" 0⟩
    .ok ([], r.withService (s.enqueue change))
  | "advance" => .ok ([], r.withService (s.advance (← natOr step "ms" 0)))
  | "process" =>
    let (reports, s) := s.processPending
    .ok ([("reports", .arr (reports.map reportJson))], r.withService s)
  | "counters" => .ok ([("counters", countersJson s)], r)
  | "effectiveness" => .ok ([("effectiveness", snapshotJson s.effectiveness)], r)
  | "trend" => .ok ([("trend", .str s.trend.trend.label)], r)
  | "snapshot" =>
    let (result, s) := s.record
    let fields := match result with
      | .ok rec => match recordJson rec with
        | .obj fs => fs
        | _ => []
      | .error e => failureFields e
    .ok (fields, r.withService s)
  | "recent" => .ok ([("recent", r.recentJson (← natOr step "n" 0))], r)
  | "get" =>
    let path := requestPath (← string step "path")
    .ok ([("entry", match s.pending.get? path with
      | some e => .obj [("kind", .str e.kind.label), ("base_priority", .ofNat e.basePriority),
          ("priority", .ofNat e.priority), ("cost_ms", .ofNat e.costMs),
          ("size_bytes", .ofNat e.sizeBytes)]
      | none => .null)], r)
  | "pending" => .ok ([], r)
  | "start" =>
    let (result, s) := s.start Watch.inotify
    .ok (outcomeFields (result.map fun _ => []), r.withService s)
  | "stop" =>
    let (result, s) := s.stop
    .ok (outcomeFields (result.map fun _ => []), r.withService s)
  | "dump" | "settle" => .ok ([("result", r.dumpJson)], r)
  | "wait" =>
    let target ← natOr step "files_changed" 0
    let waiting ← natOr step "pending" 0
    let reached := s.aggregator.counters.filesChanged ≥ target && s.pending.size == waiting
    .ok ([("reached", .bool reached), ("counters", countersJson s)], r)
  | "sleep" => .ok ([], r)
  | "shutdown_requested" => .ok ([("requested", .bool !s.running)], r)
  | "history" =>
    let path := s.settings.historyFile s.root
    .ok (outcomeFields ((History.loadOrDefault s.tree path).map fun h =>
      [("records", .arr (h.entries.map recordJson))]), r)
  | other => bad s!"unknown service step {other}"

/-- The fields every step answers: whether the service runs and, unless the watcher may
still be delivering, how many changes wait. -/
def always (r : ServiceRun) (op : String) : List Field :=
  let shown := !r.watching || op == "settle" || op == "wait" || op == "dump"
  [("running", .bool r.service.running)] ++
    (if shown then [("pending", .ofNat r.service.pending.size)] else [])

end ServiceRun

/-- Runs the steps in order; the background loop catches up after each. -/
def runServiceSteps : ServiceRun → List Json → List Json
  | _, [] => []
  | r, step :: rest =>
    let op := match member? step "op" with
      | some (.str s) => s
      | _ => ""
    let (fields, r) := match r.step step with
      | .ok (fields, r) => (fields, r.withService r.service.catchUp)
      | .error rejection => (match rejection.answer with
        | .obj fs => fs
        | _ => [], r)
    .obj (fields ++ r.always op) :: runServiceSteps r rest

/-- The paths a request names: its files and the paths of its steps. -/
def namedPaths (j : Json) (steps : List Json) : List String :=
  let files := match member? j "files" with
    | some (.obj fs) => fs.map (·.1)
    | _ => []
  let fromSteps := steps.flatMap fun step =>
    ["path", "from", "to"].filterMap fun key => match member? step key with
      | some (.str p) => some p
      | _ => none
  (files ++ fromSteps).map requestPath

def answerService (j : Json) : Decode Json := do
  let settings ← sectionOr j "config" {} Settings.ofJson
  let tree ← requestTree j
  let limit ← natOr j "max_line_length" Rules.defaultLineLimit
  let sample : Sample ← match member? j "sample" with
    | some spec => do
      .ok { heapBytes := ← natOr spec "heap_bytes" 0
            cpuPercent := (← floatOr spec "cpu_percent" 0.0).toFloat32 }
    | none => .ok {}
  let watch ← boolOr j "watch" false
  let setup : Setup := {
    root := scratchRoot, settings, tree, validator := rulesValidator limit, sample
    withSink := ← boolOr j "sink" false, watch, wallStartMs := serviceWallStartMs }
  let service ← lift (Service.build setup)
  let steps ← listOr j "steps"
  let run : ServiceRun := { service, named := namedPaths j steps, watching := watch }
  .ok (.obj [("steps", .arr (runServiceSteps run steps))])

end LintWatch.Api
