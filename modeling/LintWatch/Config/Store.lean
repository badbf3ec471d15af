import LintWatch.Config.Decode
import LintWatch.Config.Check
import LintWatch.Config.Encode
import LintWatch.Toml.Parse
import LintWatch.Toml.Print
import LintWatch.FileSystem

/-! The settings file of a watched root, `.sentinel/sentinel.toml`. A root without one runs
on the defaults; a file that is not TOML, or whose members have the wrong types, is a parse
failure, and settings that break a rule are refused after reading. -/
namespace LintWatch

namespace Settings

/-- The settings file of a root. -/
def filePath (root : String) : String := Path.join (Path.join root dataDir) settingsFileName

/-- Settings from the text of a settings file, checked. -/
def ofToml (text : String) : Except Error Settings := do
  let doc ← (Toml.parse text).mapError fun _ => Error.configParse
  let s ← (Settings.ofJson doc.toJson).mapError fun _ => Error.configParse
  s.validate
  .ok s

/-- Settings from a settings file, which must exist and hold UTF-8 text. -/
def loadFrom (fs : FileSystem) (path : String) : Except Error Settings := do
  let bytes ← (fs.read path).mapError fun _ => Error.io
  match String.fromUTF8? bytes with
  | some text => ofToml text
  | none => .error .io

/-- The settings of a root: its settings file, or the defaults when there is none. -/
def load (fs : FileSystem) (root : String) : Except Error Settings :=
  let path := filePath root
  if !fs.present path then .ok {} else loadFrom fs path

/-- Writes the settings file of a root, making its data directory first. -/
def save (s : Settings) (fs : FileSystem) (root : String) : Except Error FileSystem := do
  let fs ← (fs.createDirAll (Path.join root dataDir)).mapError fun _ => Error.io
  let text ← (Toml.print s.toToml).mapError fun _ => Error.configSerialize
  (fs.writeFile (filePath root) (.bytes text.toUTF8)).mapError fun _ => Error.io

end Settings

end LintWatch
