import Std.Time.Zoned
import LintWatch.Cli.Run

/-! The program on the real file system. The work is done on a tree that holds the files the
command reads: the working directory, the root, its settings file, a settings file named on
the command line, and the history file the settings point to. What the command leaves in
that tree is written back to disk. A watch runs until a line, or the end, of standard input
arrives, which stands for the interrupt that stops it cleanly. -/
namespace LintWatch.Cli.Host

/-- The tree with the file at `path` read from disk, when there is one. -/
def includeFile (fs : FileSystem) (path : String) : IO FileSystem := do
  let key := (fs.locate path).1
  try
    let bytes ← IO.FS.readBinFile key
    match fs.writeFileAll key (.bytes bytes) with
    | .ok fs => pure fs
    | .error _ => pure fs
  catch _ => pure fs

/-- The tree with a root that exists on disk: a file is read, anything else is taken for a
directory. Gives the root's canonical path too. -/
def includeRoot (fs : FileSystem) (root : String) : IO (FileSystem × String) := do
  let key := (fs.locate root).1
  try
    let canonical := toString (← IO.FS.realPath key)
    let withFile ← includeFile fs canonical
    if withFile.isFile canonical then pure (withFile, canonical)
    else match fs.createDirAll canonical with
      | .ok fs => pure (fs, canonical)
      | .error _ => pure (fs, canonical)
  catch _ => pure (fs, root)

/-- Writes to disk what `after` holds that `before` does not. -/
def writeBack (before after : FileSystem) : IO Unit := do
  for (key, node) in FileSystem.changes before after do
    match node with
    | .directory => IO.FS.createDirAll key
    | .file c => IO.FS.writeBinFile key c.toBytes

/-- The working directory as a tree. -/
def workingTree : IO FileSystem := do
  let cwd := toString (← IO.currentDir)
  match ({} : FileSystem).createDirAll cwd with
  | .ok fs => pure { fs with cwd }
  | .error _ => pure { cwd }

/-- Milliseconds since the Unix epoch. -/
def wallMs : IO Nat := do
  pure (← Std.Time.Timestamp.now).toMillisecondsSinceUnixEpoch.val.toNat

def history (root : String) (last : Nat) : IO UInt32 := do
  let fs ← workingTree
  let fs ← includeFile fs (Settings.filePath root)
  let fs ← match Settings.load fs root with
    | .ok s => includeFile fs (s.historyFile root)
    | .error _ => pure fs
  match historyText fs root last with
  | .ok text =>
    IO.print text
    pure 0
  | .error report =>
    IO.eprint report
    pure 1

def watch (root : String) (config : Option String) : IO UInt32 := do
  let fs ← workingTree
  let (fs, root) ← includeRoot fs root
  let fs ← includeFile fs (Settings.filePath root)
  let fs ← match config with
    | some path => includeFile fs path
    | none => pure fs
  let fs ← match watchSettings fs root config with
    | .ok s => includeFile fs (s.historyFile root)
    | .error _ => pure fs
  match beginWatch fs root config (← wallMs) with
  | .error (report, after) =>
    writeBack fs after
    IO.eprint report
    pure 1
  | .ok s =>
    writeBack fs s.tree
    let out ← IO.getStdout
    out.putStr (watchingLine s.root)
    out.flush
    let started ← IO.monoMsNow
    let _ ← (← IO.getStdin).getLine
    let elapsed := (← IO.monoMsNow) - started
    let s := { s with wallStartMs := (← wallMs) - (s.nowMs + elapsed) }
    let exit := endWatch s elapsed
    writeBack fs exit.tree
    IO.eprint exit.stderr
    pure exit.status.toUInt32

def runArgs (args : List String) : IO UInt32 := do
  match parse args with
  | .usage =>
    IO.eprint usageText
    pure 2
  | .print text =>
    IO.print text
    pure 0
  | .run (.history root last) => history root last
  | .run (.watch root config) => watch root config

end LintWatch.Cli.Host

def main (args : List String) : IO UInt32 := LintWatch.Cli.Host.runArgs args
