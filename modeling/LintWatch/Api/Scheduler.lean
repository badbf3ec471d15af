import LintWatch.Api.Classify
import LintWatch.Api.Scratch
import LintWatch.Schedule.Debounce

/-! Requests that drive the pending set and the debounce state machine step by step on a
clock that moves only when told to. -/
namespace LintWatch.Api

open Schedule

/-- An entry as answered; the time it was seen is left out where it is not the request's
own. -/
def entryJson (e : Entry) (withDetected : Bool := true) : Json :=
  .obj ([("path", .str (shownPath e.path)), ("kind", .str e.kind.label),
    ("base_priority", .ofNat e.basePriority), ("priority", .ofNat e.priority),
    ("cost_ms", .ofNat e.costMs), ("size_bytes", .ofNat e.sizeBytes),
    ("enqueued_ms", .ofNat e.enqueuedMs)] ++
    (if withDetected then [("detected_ms", .ofNat e.detectedMs)] else []))

def phaseJson : Phase → Json
  | .idle => .str "Idle"
  | .flushing => .str "Flushing"
  | .pending since => .obj [("Pending", .ofNat since)]

/-- The settings sections that shape a pending set below the working directory. -/
def requestPendingSet (j : Json) : Decode (SchedulerConfig × PendingSet) := do
  let config ← sectionOr j "scheduler" {} SchedulerConfig.ofJson
  let classify ← sectionOr j "classify" {} ClassifyConfig.ofJson
  let classifier ← lift (Classifier.new classify (some scratchRoot))
  .ok (config, PendingSet.new classifier config.maxPending config.ageBoostMs)

/-- The state of a scheduling request between steps. -/
structure SchedulerRun where
  tree : FileSystem
  pending : PendingSet
  scheduler : Scheduler
  now : Nat := 0
  /-- The entries of the latest batch taken. -/
  lastTaken : List Entry := []
  /-- The paths queued so far, newest first. -/
  queued : List String := []

/-- Writes a file of a request, making the directories above it. -/
def writeStep (tree : FileSystem) (step : Json) : Decode FileSystem := do
  let path := requestPath (← string step "path")
  let content ← match member? step "file" with
    | some spec => fileContent spec
    | none => bad "missing file"
  liftIo (tree.writeFileAll path content)

namespace SchedulerRun

/-- The queue length a step names, or the pending set's own. -/
def lengthOf (r : SchedulerRun) (step : Json) : Decode Nat := natOr step "len" r.pending.size

def enqueue (r : SchedulerRun) (path : String) (kind : ChangeKind) (detected : Nat) :
    SchedulerRun :=
  let size := (r.tree.size? path).getD 0
  { r with
    pending := r.pending.enqueue ⟨path, kind, detected⟩ size r.now
    queued := path :: r.queued }

/-- The pending entries among the queued paths, by path. -/
def dump (r : SchedulerRun) : List Entry :=
  let found := r.queued.filterMap r.pending.get?
  let unique := found.foldl (fun acc e => if acc.any (·.path == e.path) then acc else e :: acc) []
  unique.mergeSort fun a b => shownPath a.path ≤ shownPath b.path

/-- One step: the fields it answers and the state after it. -/
def step (r : SchedulerRun) (step : Json) : Decode (List Field × SchedulerRun) := do
  match ← string step "op" with
  | "enqueue" =>
    let path := requestPath (← string step "path")
    .ok ([], r.enqueue path (← kindOr step) (← natOr step "detected_ms" 0))
  | "enqueue_many" =>
    let pre ← string step "prefix"
    let count ← natOr step "count" 0
    let ext ← stringOr step "ext" "ts"
    let kind ← kindOr step
    .ok ([], (List.range count).foldl (fun r i =>
      r.enqueue (requestPath (pre ++ toString i ++ "." ++ ext)) kind 0) r)
  | "write" => .ok ([], { r with tree := ← writeStep r.tree step })
  | "delete" =>
    let path := requestPath (← string step "path")
    .ok ([], { r with tree := ← liftIo (r.tree.removeFile path) })
  | "advance" => .ok ([], { r with now := r.now + (← natOr step "ms" 0) })
  | "time_until_flush" =>
    let (left, s) := r.scheduler.timeUntilFlush r.now (← r.lengthOf step)
    .ok ([("result", match left with
      | some ms => .ofNat ms
      | none => .null)], { r with scheduler := s })
  | "should_flush" =>
    let (due, s) := r.scheduler.shouldFlush r.now (← r.lengthOf step)
    .ok ([("result", .bool due)], { r with scheduler := s })
  | "delay" => .ok ([("result", .ofNat (r.scheduler.delay (← r.lengthOf step)))], r)
  | "flush" =>
    let (batch, pending, s) := r.scheduler.flush r.pending r.now
    .ok ([("result", .obj [("sequence", .ofNat batch.sequence),
        ("flushed_ms", .ofNat batch.flushedMs),
        ("entries", .arr (batch.entries.map (entryJson ·)))])],
      { r with pending, scheduler := s, lastTaken := batch.entries })
  | "take_batch" =>
    let (taken, pending) := r.pending.takeBatch (← natOr step "max" 0) r.now
    .ok ([("result", .arr (taken.map (entryJson ·)))], { r with pending, lastTaken := taken })
  | "complete" =>
    .ok ([], { r with scheduler := r.scheduler.complete r.now (← r.lengthOf step) })
  | "requeue" =>
    match r.lastTaken[← natOr step "index" 0]? with
    | some e => .ok ([], { r with pending := r.pending.requeue e })
    | none => bad "requeue index out of range"
  | "get" =>
    let path := requestPath (← string step "path")
    .ok ([("result", match r.pending.get? path with
      | some e => entryJson e
      | none => .null)], r)
  | "dump" => .ok ([("result", .arr (r.dump.map (entryJson ·)))], r)
  | other => bad s!"unknown scheduler step {other}"

/-- The fields every step answers. -/
def always (r : SchedulerRun) : List Field :=
  [("state", phaseJson r.scheduler.phase), ("pending", .ofNat r.pending.size),
    ("evicted", .ofNat r.pending.evicted)]

end SchedulerRun

/-- Runs steps in order; a failing step answers its rejection and leaves the state as it was. -/
def runSteps (run : σ → Json → Decode (List Field × σ)) (always : σ → List Field) :
    σ → List Json → List Json
  | _, [] => []
  | r, step :: rest =>
    match run r step with
    | .ok (fields, r') => .obj (fields ++ always r') :: runSteps run always r' rest
    | .error rejection =>
      let fields := match rejection.answer with
        | .obj fs => fs
        | _ => []
      .obj (fields ++ always r) :: runSteps run always r rest

def answerScheduler (j : Json) : Decode Json := do
  let (config, pending) ← requestPendingSet j
  let tree ← requestTree j
  let steps ← listOr j "steps"
  let run : SchedulerRun := { tree, pending, scheduler := { config } }
  .ok (.obj [("steps", .arr (runSteps SchedulerRun.step SchedulerRun.always run steps))])

end LintWatch.Api
