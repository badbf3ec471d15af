import LintWatch.Api.Service
import LintWatch.Cli.Run
import LintWatch.Json.Parse

/-! Requests that run the command line in the working directory. `$ROOT` in an argument
stands for the working directory. A run that is to be interrupted once it watches is
interrupted 150 ms after it begins watching; its answer reports the files it leaves
rather than what it printed. -/
namespace LintWatch.Api

/-- How long a watch runs before it is interrupted, in milliseconds. -/
def interruptDelayMs : Nat := 150

/-- What a run printed: the JSON it reads as, or the text itself. -/
def stdoutJson (text : String) : Json :=
  match Json.parse text with
  | .ok j => j
  | .error _ => .str text

/-- A record of a history file as reported: every member but its time. -/
def withoutTimestamp : Json → Json
  | .obj fs => .obj (fs.filter (·.1 != "timestamp"))
  | j => j

/-- A history file as reported: its JSON with no entry's time, or null when it is absent
or not JSON. -/
def historyReport (fs : FileSystem) (path : String) : Json :=
  match fs.read (requestPath path) with
  | .error _ => .null
  | .ok bytes =>
    match String.fromUTF8? bytes with
    | none => .null
    | some text =>
      match Json.parse text with
      | .error _ => .null
      | .ok (.obj members) => .obj (members.map fun (k, v) =>
          if k == "entries" then
            match v with
            | .arr entries => (k, .arr (entries.map withoutTimestamp))
            | v => (k, v)
          else (k, v))
      | .ok j => j

/-- The paths listed under a key of a request. -/
def pathList (j : Json) (key : String) : Decode (List String) := do
  (← listOr j key).mapM fun
    | .str p => .ok p
    | _ => bad s!"{key} must hold strings"

def answerCli (j : Json) : Decode Json := do
  let tree ← requestTree j
  let args ← (← listOr j "args").mapM fun
    | .str a => .ok (a.replace "$ROOT" scratchRoot)
    | _ => bad "args must be strings"
  let fs := { tree with cwd := scratchRoot }
  let exit := Cli.run fs args interruptDelayMs serviceWallStartMs
  match member? j "interrupt_after" with
  | none => .ok (.obj [("status", .ofNat exit.status), ("stdout", stdoutJson exit.stdout)])
  | some _ =>
    let histories ← pathList j "history_files"
    let present ← pathList j "exists"
    .ok (.obj ([("status", .ofNat exit.status), ("interrupted", .bool exit.watched)] ++
      histories.map (fun p => ("history:" ++ p, historyReport exit.tree p)) ++
      present.map (fun p => ("exists:" ++ p, .bool (exit.tree.present (requestPath p))))))

end LintWatch.Api
