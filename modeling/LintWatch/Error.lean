/-! The conditions that stop the service or keep it from starting. Problems with one file
never show up here: the service counts them and goes on. -/
namespace LintWatch

/-- A fatal condition. Only the conditions whose text is fixed carry it. -/
inductive Error where
  /-- The file watcher could not be set up. -/
  | watcher
  /-- Settings that the scheduler cannot honour. -/
  | invalidConfig (reason : String)
  /-- The settings file is not valid settings text. -/
  | configParse
  /-- The settings cannot be written as settings text. -/
  | configSerialize
  /-- A glob that does not parse. -/
  | pattern (pattern message : String)
  /-- The history file is not a valid history. -/
  | historyFormat
  /-- A document does not have the shape of the value read from it. -/
  | json
  /-- A file could not be read or written. -/
  | io
  | alreadyRunning
  | notRunning
  deriving Repr, BEq, DecidableEq, Inhabited

namespace Error

/-- The name of the condition. -/
def kind : Error → String
  | .watcher => "Watcher"
  | .invalidConfig _ => "InvalidConfig"
  | .configParse => "ConfigParse"
  | .configSerialize => "ConfigSerialize"
  | .pattern _ _ => "Pattern"
  | .historyFormat => "HistoryFormat"
  | .json => "Json"
  | .io => "Io"
  | .alreadyRunning => "AlreadyRunning"
  | .notRunning => "NotRunning"

/-- The text of the condition, for those whose text is fixed. -/
def message? : Error → Option String
  | .invalidConfig reason => some ("Invalid configuration: " ++ reason)
  | .pattern p m => some ("Invalid glob pattern " ++ p ++ ": " ++ m)
  | .alreadyRunning => some "Validation service is already running"
  | .notRunning => some "Validation service is not running"
  | _ => none

end Error

end LintWatch
