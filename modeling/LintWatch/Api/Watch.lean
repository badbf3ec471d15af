import LintWatch.Api.Scheduler
import LintWatch.Watch.Event
import LintWatch.Watch.Detector

/-! Requests on the change detector's pure parts: turning notifications into queued changes,
and the initial scan of the working directory. -/
namespace LintWatch.Api

open Watch Schedule

/-- The notice a request's event kind names. -/
def noticeOf? : String → Option Notice
  | "any" | "access" | "other" => some .unrelated
  | "create" | "create_file" | "create_folder" => some .created
  | "modify_any" | "modify_data" | "modify_other" | "rename_any" | "rename_other" => some .written
  | "modify_metadata" => some .metadataChanged
  | "rename_both" => some .renamed
  | "rename_from" => some .movedOut
  | "rename_to" => some .movedIn
  | "remove" | "remove_file" => some .removed
  | _ => none

def eventOf (j : Json) : Decode Event := do
  let kind ← string j "kind"
  let notice ← match noticeOf? kind with
    | some n => .ok n
    | none => bad s!"unknown event kind {kind}"
  let paths ← (← listOr j "paths").mapM fun
    | .str p => .ok (requestPath p)
    | _ => bad "path is not a string"
  .ok ⟨notice, paths⟩

def changeJson (c : Change) : Json :=
  .obj [("path", .str (shownPath c.path)), ("kind", .str c.kind.label)]

/-- Every pending entry, by path. -/
def pendingJson (s : PendingSet) (withDetected : Bool := true) : Json :=
  .arr (((s.toList.mergeSort fun a b => shownPath a.path ≤ shownPath b.path)).map
    (entryJson · withDetected))

/-- Queues the changes of the tree's files, each sized from the tree at time `now`. -/
def enqueueAll (tree : FileSystem) (s : PendingSet) (changes : List Change) (now : Nat) :
    PendingSet :=
  changes.foldl (fun s c => s.enqueue c ((tree.size? c.path).getD 0) now) s

def answerEvents (j : Json) : Decode Json := do
  let watch ← sectionOr j "watch" {} WatchConfig.ofJson
  let f ← lift (Filter.new watch)
  let (_, pending) ← requestPendingSet j
  let events ← (← listOr j "events").mapM eventOf
  let tree ← requestTree j
  let (answers, pending) := events.foldl (fun (acc, s) e =>
    let changes := e.admitted f tree.isFile 0
    (acc ++ [Json.obj [("changes", .arr (changes.map changeJson)),
      ("queued", .ofNat changes.length)]], enqueueAll tree s changes 0)) ([], pending)
  .ok (.obj [("events", .arr answers), ("pending", pendingJson pending)])

def answerScan (j : Json) : Decode Json := do
  let watch ← sectionOr j "watch" {} WatchConfig.ofJson
  let f ← lift (Filter.new watch)
  let (_, pending) ← requestPendingSet j
  let tree ← requestTree j
  let (queued, pending) := queueScan f tree scratchRoot pending 0 0
  .ok (.obj [("queued", .ofNat queued), ("pending", pendingJson pending)])

end LintWatch.Api
