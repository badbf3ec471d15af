import LintWatch.Cli.Args
import LintWatch.Config.Store
import LintWatch.Service.Core

/-! Running a command line over a tree of files. `history` prints the newest records of a
root's history file as indented JSON. `watch` resolves its root, makes the root's log
directory, reads the settings, and starts a service that persists a record to the history
file when it stops; it then watches until interrupted, and the interrupt stops it cleanly.
Usage errors end with status 2, failures with status 1. -/
namespace LintWatch.Cli

open Metrics

/-- How a run ends: its exit status, what it printed and what it reported as an error, the
files it leaves, and whether it got as far as watching. -/
structure Exit where
  status : Nat
  stdout : String := ""
  stderr : String := ""
  tree : FileSystem
  watched : Bool := false

/-- The report of a usage error. -/
def usageText : String :=
  "error: invalid arguments\n\nUsage: sentinel <COMMAND>\n\nFor more information, try '--help'.\n"

/-- The report of a failure: what was being done, then why it failed. -/
def failureText (context : String) (e : Option Error) : String :=
  let cause := match e with
    | some e => "\n\nCaused by:\n    " ++ (e.message?.getD e.kind)
    | none => ""
  "Error: " ++ context ++ cause ++ "\n"

/-- The newest `last` records of a root's history as indented JSON. The settings of the
root say where the history file is; a root with no history file has no records. -/
def historyText (fs : FileSystem) (root : String) (last : Nat) : Except String String := do
  let settings ← (Settings.load fs root).mapError
    (failureText "Failed to load configuration" ∘ some)
  let path := settings.historyFile root
  let h ← (History.loadOrDefault fs path).mapError
    (failureText s!"Failed to read history {path}" ∘ some)
  .ok (Json.pretty (.arr ((h.lastN last).map Record.toJson)) ++ "\n")

/-- The directory a watched root logs to. -/
def logsDir (root : String) : String := Path.join (Path.join root dataDir) "logs"

/-- The line printed once the service watches. -/
def watchingLine (root : String) : String := s!"Watching {root} (Ctrl-C to stop)\n"

/-- The settings a watch runs on: those of `config` when given, else those of the root. -/
def watchSettings (fs : FileSystem) (root : String) (config : Option String) :
    Except Error Settings :=
  match config with
  | some path => Settings.loadFrom fs path
  | none => Settings.load fs root

/-- Starts watching: the root must resolve to an existing path, its log directory is made,
the settings come from `config` when given and from the root otherwise, and the service
must build and start. A failure is reported with the files as they stand then. -/
def beginWatch (fs : FileSystem) (root : String) (config : Option String) (wallStartMs : Nat) :
    Except (String × FileSystem) Service.Service :=
  match fs.canonicalize? root with
  | none => .error (failureText s!"Project root {root} not found" (some .io), fs)
  | some root =>
    match fs.createDirAll (logsDir root) with
    | .error _ =>
      .error (failureText s!"Failed to create logs directory {logsDir root}" (some .io), fs)
    | .ok fs =>
      match watchSettings fs root config with
      | .error e => .error (failureText "Failed to load configuration" (some e), fs)
      | .ok settings =>
        let setup : Service.Setup := {
          root, settings, tree := fs, validator := Service.rulesValidator Rules.defaultLineLimit
          withSink := true, wallStartMs }
        match Service.build setup with
        | .error e => .error (failureText "Failed to build validation service" (some e), fs)
        | .ok s =>
          match s.start Watch.inotify with
          | (.ok (), s) => .ok s
          | (.error e, _) => .error (failureText s!"Failed to start watching {root}" (some e), fs)

/-- Ends a watch interrupted `elapsedMs` after it began: the background loop catches up,
then the service stops and persists its final record. -/
def endWatch (s : Service.Service) (elapsedMs : Nat) : Exit :=
  let (result, s) := (s.advance elapsedMs).catchUp.stop
  match result with
  | .ok () => { status := 0, stdout := watchingLine s.root, tree := s.tree, watched := true }
  | .error e =>
    { status := 1, stdout := watchingLine s.root, stderr := failureText "Failed to stop cleanly" (some e)
      tree := s.tree, watched := true }

/-- Runs a command line over `fs`; a watch is interrupted `watchMs` after it begins. -/
def run (fs : FileSystem) (args : List String) (watchMs wallStartMs : Nat) : Exit :=
  match parse args with
  | .usage => { status := 2, stderr := usageText, tree := fs }
  | .print text => { status := 0, stdout := text, tree := fs }
  | .run (.history root last) =>
    match historyText fs root last with
    | .ok text => { status := 0, stdout := text, tree := fs }
    | .error report => { status := 1, stderr := report, tree := fs }
  | .run (.watch root config) =>
    match beginWatch fs root config wallStartMs with
    | .ok s => endWatch s watchMs
    | .error (report, fs) => { status := 1, stderr := report, tree := fs }

end LintWatch.Cli
