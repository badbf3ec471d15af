import LintWatch.Service.Processor
import LintWatch.Config.Check
import LintWatch.Metrics.Aggregator
import LintWatch.Metrics.HistoryFile
import LintWatch.Watch.Detector

/-! The validation service: a pending set fed by direct requests, the initial scan and the
file watcher; a scheduler that takes batches from it; a processor that validates them; and
the metrics of the session. Time is a clock that moves only when told to.

While the service runs, a background loop looks at the queue: it opens the debounce window
at the clock reading when changes first wait, and takes a batch once the window has run
out. The loop is modelled as looking at the queue after every operation until a look
takes nothing; at one clock reading this settles after at most one batch per delay that
has run out, and after the first batch the guard refuses entirely. The watcher, while the
service runs with watching on, turns each operation on the files into the notices an
inotify backend delivers, and queues what the filter admits. -/
namespace LintWatch.Service

open Schedule Metrics

/-- A validation service and the files it watches. -/
structure Service where
  root : String
  settings : Settings
  tree : FileSystem
  /-- The clock, in milliseconds since the service was made. -/
  nowMs : Nat := 0
  /-- Wall-clock time when the service was made, in milliseconds since the Unix epoch. -/
  wallStartMs : Nat := 0
  pending : PendingSet
  scheduler : Scheduler
  processor : Processor
  filter : Watch.Filter
  aggregator : Aggregator
  model : Model
  trend : TrendTracker
  sink : Option HistorySink
  /-- The clock reading the session is scored from. -/
  sessionStartMs : Nat := 0
  /-- Whether starting attaches the file watcher. -/
  watchEnabled : Bool
  running : Bool := false

/-- What a service is made from. -/
structure Setup where
  root : String
  settings : Settings
  tree : FileSystem
  validator : Validator
  sample : Sample := {}
  /-- Persist records to the history file of the settings. -/
  withSink : Bool := false
  watch : Bool := true
  wallStartMs : Nat := 0

/-- Makes a service: the settings must pass their checks and the globs must parse. -/
def build (u : Setup) : Except Error Service := do
  u.settings.validate
  let classifier ← Classifier.new u.settings.classify (some u.root)
  let filter ← Watch.Filter.new u.settings.watch
  let sc := u.settings.scheduler
  let gc := u.settings.guard
  let mc := u.settings.metrics
  .ok {
    root := u.root, settings := u.settings, tree := u.tree, wallStartMs := u.wallStartMs
    pending := PendingSet.new classifier sc.maxPending sc.ageBoostMs
    scheduler := { config := sc }
    processor := {
      validator := u.validator, guard := Guard.new gc, sample := u.sample
      maxFileSizeBytes := gc.maxFileSizeBytes, readTimeoutMs := gc.readTimeoutMs }
    filter
    aggregator := Aggregator.new mc.recentCapacity
    model := { hourlyRate := mc.hourlyRate, timeSavedTargetHours := mc.timeSavedTargetHours }
    trend := TrendTracker.new mc.trendWindow
    sink := if u.withSink then
        some { path := u.settings.historyFile u.root, retention := mc.historyRetention }
      else none
    watchEnabled := u.watch }

namespace Service

/-- Wall-clock time now, in milliseconds since the Unix epoch. -/
def wallMs (s : Service) : Nat := s.wallStartMs + s.nowMs

/-- The moment of a wall-clock reading in milliseconds. -/
def timestampOf (ms : Nat) : Timestamp :=
  ⟨(ms / 86400000 : Nat), ms % 86400000 / 1000, ms % 1000 * 1000000⟩

/-- Minutes of the session so far, computed as whole seconds plus nanoseconds. -/
def sessionMinutes (s : Service) : Float :=
  let d := s.nowMs - s.sessionStartMs
  (Float.ofNat (d / 1000) + Float.ofNat (d % 1000 * 1000000) / 1000000000.0) / 60.0

/-- Queues a change, with the size its file has now. -/
def enqueue (s : Service) (c : Change) : Service :=
  { s with pending := s.pending.enqueue c ((s.tree.size? c.path).getD 0) s.nowMs }

/-- Queues what the watcher makes of some notices, when it is attached. -/
def notice (s : Service) (events : List Watch.Event) : Service :=
  if s.running && s.watchEnabled then
    { s with pending := Watch.queueNotices s.filter s.tree events s.pending s.nowMs s.wallMs }
  else s

/-- The path the watcher reports for a path. -/
def watchedPath (s : Service) (path : String) : String := (s.tree.locate path).1

/-- Writes a file: a new file is created, then written if it has content; an existing one
is written. -/
def write (s : Service) (path : String) (content : Content) : Except IoError Service := do
  let existed := s.tree.isFile path
  let tree ← s.tree.writeFileAll path content
  .ok ({ s with tree }.notice (Watch.writeNotices existed (s.watchedPath path) content))

def delete (s : Service) (path : String) : Except IoError Service := do
  let p := s.watchedPath path
  let tree ← s.tree.removeFile path
  .ok ({ s with tree }.notice (Watch.removeNotices p))

/-- Renames a file within the tree: the old path is removed and the new one added. -/
def rename (s : Service) (source target : String) : Except IoError Service := do
  let a := s.watchedPath source
  let b := s.watchedPath target
  let tree ← s.tree.rename source target
  .ok ({ s with tree }.notice (Watch.renameNotices a b))

/-- Moves the clock on. -/
def advance (s : Service) (ms : Nat) : Service := { s with nowMs := s.nowMs + ms }

/-- Processes a batch: refused entries go back to the pending set and results are
recorded. -/
def processBatch (s : Service) (b : Batch) : Report × Service :=
  let (report, processor) := s.processor.process s.tree b
  let pending := report.refused.foldl PendingSet.requeue s.pending
  let aggregator := report.results.foldl Aggregator.record s.aggregator
  (report, { s with processor, pending, aggregator })

/-- Takes a batch now, processes it, and lets the scheduler know it is done. -/
def flushNow (s : Service) : Option (Report × Nat) × Service :=
  let (batch, pending, scheduler) := s.scheduler.flush s.pending s.nowMs
  let s := { s with pending, scheduler }
  let (done, s) :=
    if batch.entries.isEmpty then (none, s)
    else
      let (report, s) := s.processBatch batch
      (some (report, batch.entries.length), s)
  (done, { s with scheduler := s.scheduler.complete s.nowMs s.pending.size })

/-- Processes batches until the queue is empty or a batch is refused entirely; `fuel`
bounds the batches. -/
def drain : Nat → Service → List Report → List Report × Service
  | 0, s, acc => (acc.reverse, s)
  | fuel + 1, s, acc =>
    if s.pending.size == 0 then (acc.reverse, s)
    else
      match s.flushNow with
      | (none, s) => (acc.reverse, s)
      | (some (report, taken), s) =>
        if report.deferred == taken then ((report :: acc).reverse, s)
        else drain fuel s (report :: acc)

/-- Processes everything pending without waiting for the debounce window. -/
def processPending (s : Service) : List Report × Service := drain (s.pending.size + 1) s []

/-- One look of the background loop: a batch is taken when the window has run out. -/
def tick (s : Service) : Option (Report × Nat) × Service :=
  let (due, scheduler) := s.scheduler.shouldFlush s.nowMs s.pending.size
  let s := { s with scheduler }
  if due then s.flushNow else (none, s)

/-- The background loop at the current clock reading, until a look takes nothing or a
batch is refused entirely; `fuel` bounds the looks. -/
def loop : Nat → Service → Service
  | 0, s => s
  | fuel + 1, s =>
    if !s.running then s
    else
      match s.tick with
      | (none, s) => s
      | (some (report, taken), s) => if report.deferred == taken then s else loop fuel s

/-- The service after its background loop has caught up with the queue. -/
def catchUp (s : Service) : Service := loop (s.pending.size + 2) s

/-- Scores the session, adds the score to the trend window and persists the record. The
trend keeps the score even when persisting fails. -/
def record (s : Service) : Except Error Record × Service :=
  let counters := s.aggregator.counters
  let snapshot := s.model.snapshot counters s.sessionMinutes
  let trend := s.trend.record snapshot.score
  let r : Record := { timestamp := timestampOf s.wallMs, counters, snapshot, trend := trend.trend }
  let s := { s with trend }
  match s.sink with
  | some sink =>
    match sink.persist s.tree r with
    | .ok tree => (.ok r, { s with tree })
    | .error e => (.error e, s)
  | none => (.ok r, s)

/-- The current scores of the session. -/
def effectiveness (s : Service) : Snapshot := s.model.snapshot s.aggregator.counters s.sessionMinutes

/-- What a start can fail on, in order: the service must not run yet, the history file must
be readable, and the backend must watch the root when watching is on. -/
def startCheck (s : Service) (backend : Watch.Backend) : Except Error Unit := do
  if s.running then throw .alreadyRunning
  if let some sink := s.sink then sink.verify s.tree
  if s.watchEnabled then Watch.attach backend s.tree s.root

/-- What a start does once nothing can fail: the session starts afresh, the initial scan
queues every admitted file when the settings ask for it, and the loop starts. -/
def launch (s : Service) : Service :=
  let s := { s with sessionStartMs := s.nowMs }
  let s := if s.settings.watch.initialScan then
      { s with pending := (Watch.queueScan s.filter s.tree s.root s.pending s.nowMs s.wallMs).2 }
    else s
  { s with running := true }

/-- Starts the service over a notification backend. Every failure comes before anything
changes, so a failed start leaves the service as it was. -/
def start (s : Service) (backend : Watch.Backend) : Except Error Unit × Service :=
  match s.startCheck backend with
  | .ok () => (.ok (), s.launch)
  | .error e => (.error e, s)

/-- Stops the service, then persists a final record when there is a sink. The service is
stopped even when persisting fails. -/
def stop (s : Service) : Except Error Unit × Service :=
  if !s.running then (.error .notRunning, s)
  else
    let s := { s with running := false }
    if s.sink.isSome then
      let (r, s) := s.record
      (r.map fun _ => (), s)
    else (.ok (), s)

end Service

end LintWatch.Service
