import LintWatch.Watch.Event
import LintWatch.Watch.Scan
import LintWatch.Schedule.Pending

/-! The change detector: the notices an inotify backend delivers for operations on the
files, and the queueing of what they stand for. Writing a new file delivers a creation,
then a write when it has content; writing an existing file delivers a write; removing a
file a removal; making a directory a creation; and renaming within the tree a move out of
the old path and a move into the new one. The detector queues the changes its filter
admits, each with the size its file has once the operation is done. -/
namespace LintWatch.Watch

open Schedule

def writeNotices (existed : Bool) (path : String) (content : Content) : List Event :=
  if existed then [⟨.written, [path]⟩]
  else if content.size == 0 then [⟨.created, [path]⟩]
  else [⟨.created, [path]⟩, ⟨.written, [path]⟩]

def removeNotices (path : String) : List Event := [⟨.removed, [path]⟩]

def mkdirNotices (path : String) : List Event := [⟨.created, [path]⟩]

def renameNotices (source target : String) : List Event :=
  [⟨.movedOut, [source]⟩, ⟨.movedIn, [target]⟩]

/-- Queues the changes that notices stand for and the filter admits, seen at `wallMs` and
queued at `nowMs`. -/
def queueNotices (f : Filter) (tree : FileSystem) (events : List Event) (pending : PendingSet)
    (nowMs wallMs : Nat) : PendingSet :=
  events.foldl (fun p e => (e.admitted f tree.isFile wallMs).foldl
    (fun p c => p.enqueue c ((tree.size? c.path).getD 0) nowMs) p) pending

/-- Queues every file the initial scan finds, as modified: the pending set after it, and
the number queued. -/
def queueScan (f : Filter) (tree : FileSystem) (root : String) (pending : PendingSet)
    (nowMs wallMs : Nat) : Nat × PendingSet :=
  let found := scanTree tree f root
  (found.length, found.foldl
    (fun p path => p.enqueue ⟨path, .modified, wallMs⟩ ((tree.size? path).getD 0) nowMs) pending)

/-- Whether the operating system's notification backend sets up a recursive watch on a root
of a tree. The backend lies outside the library. -/
abbrev Backend := FileSystem → String → Bool

/-- The inotify backend: it watches any root that exists. -/
def inotify : Backend := fun tree root => tree.present root

/-- Sets up the backend's watch on `root`; a backend that cannot is a fatal watcher error. -/
def attach (backend : Backend) (tree : FileSystem) (root : String) : Except Error Unit :=
  if backend tree root then .ok () else .error .watcher

/-- A change detector over the tree below `root`. -/
structure Detector where
  root : String
  filter : Filter
  pending : PendingSet
  watching : Bool := false

namespace Detector

/-- Starts watching, once the backend watches the root. -/
def start (d : Detector) (backend : Backend) (tree : FileSystem) : Except Error Detector :=
  (attach backend tree d.root).map fun () => { d with watching := true }

def stop (d : Detector) : Detector := { d with watching := false }

/-- Queues what notices stand for, while watching. -/
def observe (d : Detector) (tree : FileSystem) (events : List Event) (nowMs wallMs : Nat) :
    Detector :=
  if d.watching then { d with pending := queueNotices d.filter tree events d.pending nowMs wallMs }
  else d

def initialScan (d : Detector) (tree : FileSystem) (nowMs wallMs : Nat) : Nat × Detector :=
  let (n, pending) := queueScan d.filter tree d.root d.pending nowMs wallMs
  (n, { d with pending })

end Detector

end LintWatch.Watch
