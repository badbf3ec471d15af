import Std.Data.TreeMap
import LintWatch.Schedule.Cost
import LintWatch.Schedule.Priority

/-! The set of changes waiting to be validated. It holds at most one entry per path: a later
change to a path overwrites the earlier one but keeps its place in line, since the time it
was first queued is never reset. When the set grows past its cap, the oldest entries are
dropped unvalidated, never the one just queued. A batch takes the most urgent entries:
highest priority first, where waiting raises the priority by one for each full boost
interval, then the cheapest, then the oldest, then by path. -/
namespace LintWatch.Schedule

/-- A change waiting to be validated. Times are milliseconds of the watch's clock, except
`detectedMs`, which is milliseconds since the Unix epoch. -/
structure Entry where
  path : String
  kind : ChangeKind
  detectedMs : Nat
  /-- Priority from the path's classification alone. -/
  basePriority : Nat
  /-- Priority with the boost for waiting, fixed when the entry is taken. -/
  priority : Nat
  costMs : Nat
  sizeBytes : Nat
  enqueuedMs : Nat
  deriving Repr, BEq, DecidableEq, Inhabited

/-- The largest priority. -/
def maxPriority : Nat := Nat.pow 2 32 - 1

/-- The base priority raised by one for each full `boostMs` waited by `now`, up to
`maxPriority`; a zero interval gives no boost. -/
def Entry.boostedPriority (e : Entry) (now boostMs : Nat) : Nat :=
  if boostMs == 0 then e.basePriority
  else min (e.basePriority + (now - e.enqueuedMs) / boostMs) maxPriority

/-- An entry under its key, the components of its path. -/
abbrev Keyed := List Path.Component × Entry

/-- Batch order: priority descending, then cost, then time queued, then path. -/
def batchOrder (a b : Keyed) : Ordering :=
  (compare b.2.priority a.2.priority).then <|
    (compare a.2.costMs b.2.costMs).then <|
      (compare a.2.enqueuedMs b.2.enqueuedMs).then (compare a.1 b.1)

/-- Eviction order: oldest first, then by path. -/
def ageOrder (a b : Keyed) : Ordering :=
  (compare a.2.enqueuedMs b.2.enqueuedMs).then (compare a.1 b.1)

/-- The pending changes, keyed by the components of their paths, so that two texts of one
path share an entry. -/
structure PendingSet where
  classifier : Classifier
  /-- The most entries kept; at least one. -/
  maxPending : Nat
  /-- The boost interval in milliseconds; zero turns the boost off. -/
  ageBoostMs : Nat
  entries : Std.TreeMap (List Path.Component) Entry := ∅
  /-- Entries dropped by the cap so far. -/
  evicted : Nat := 0
  deriving Inhabited

namespace PendingSet

def new (classifier : Classifier) (maxPending ageBoostMs : Nat) : PendingSet :=
  { classifier, maxPending := max maxPending 1, ageBoostMs }

def size (s : PendingSet) : Nat := s.entries.size

def get? (s : PendingSet) (path : String) : Option Entry := s.entries[Path.components path]?

def toList (s : PendingSet) : List Entry := s.entries.values

/-- The oldest entry other than the one under `keep`. -/
def oldestBesides (s : PendingSet) (keep : List Path.Component) :
    Option (List Path.Component) :=
  (s.entries.foldl (fun best k e =>
    if k == keep then best
    else match best with
      | some b => if ageOrder (k, e) b == .lt then some (k, e) else some b
      | none => some (k, e)) none).map (·.1)

/-- Drops the oldest entries other than the one under `keep` until the cap holds; `fuel`
bounds the number dropped. -/
def enforceCap (s : PendingSet) (keep : List Path.Component) : (fuel : Nat) → PendingSet
  | 0 => s
  | fuel + 1 =>
    if s.size ≤ s.maxPending then s
    else match s.oldestBesides keep with
      | some victim =>
        enforceCap { s with entries := s.entries.erase victim, evicted := s.evicted + 1 } keep fuel
      | none => s

/-- Queues a change of a file of `sizeBytes` at time `now`. A path already queued takes the
new kind, times, priority, cost and size, and keeps its place in line. -/
def enqueue (s : PendingSet) (change : Change) (sizeBytes now : Nat) : PendingSet :=
  let size := if change.kind == .removed then 0 else sizeBytes
  let base := s.classifier.priority change.path change.kind
  let cost := estimateCostMs change.path size
  let key := Path.components change.path
  let entry := match s.entries[key]? with
    | some old =>
      { old with
        kind := change.kind, detectedMs := change.detectedMs, basePriority := base
        priority := base, costMs := cost, sizeBytes := size }
    | none =>
      { path := change.path, kind := change.kind, detectedMs := change.detectedMs
        basePriority := base, priority := base, costMs := cost, sizeBytes := size
        enqueuedMs := now }
  let s := { s with entries := s.entries.insert key entry }
  s.enforceCap key s.size

/-- Returns an entry that could not be processed. A fresher change queued meanwhile wins but
takes the older queue time, so putting an entry off never costs it its place in line. -/
def requeue (s : PendingSet) (e : Entry) : PendingSet :=
  let key := Path.components e.path
  let entry := match s.entries[key]? with
    | some old => if e.enqueuedMs < old.enqueuedMs then { old with enqueuedMs := e.enqueuedMs }
      else old
    | none => { e with priority := e.basePriority }
  let s := { s with entries := s.entries.insert key entry }
  s.enforceCap key s.size

/-- Takes up to `max` entries in batch order, their priorities boosted as of `now`. -/
def takeBatch (s : PendingSet) (max now : Nat) : List Entry × PendingSet :=
  let ranked := (s.entries.toList.map fun (k, e) =>
      ((k, { e with priority := e.boostedPriority now s.ageBoostMs }) : Keyed))
    |>.mergeSort (fun a b => batchOrder a b != .gt)
  let taken := ranked.take max
  (taken.map (·.2), { s with entries := taken.foldl (fun m (k, _) => m.erase k) s.entries })

end PendingSet

end LintWatch.Schedule
