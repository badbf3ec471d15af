import LintWatch.Path

/-! Rough validation costs, used only to order a batch: among equally important files the
cheap ones go first. A file's class comes from its extension; its cost is the class's
baseline, raised by up to twice that amount as the file grows to two mebibytes. -/
namespace LintWatch.Schedule

/-- The broad family of a file, by extension. -/
inductive FileClass where
  | compiled
  | scripting
  | markup
  | config
  | other
  deriving Repr, BEq, DecidableEq, Inhabited

namespace FileClass

def label : FileClass → String
  | .compiled => "Compiled"
  | .scripting => "Scripting"
  | .markup => "Markup"
  | .config => "Config"
  | .other => "Other"

/-- The class of an extension, compared case by case (`R` and `r` are both scripts). -/
def ofExtension (ext : String) : FileClass :=
  if ["rs", "go", "java", "cs", "cpp", "cxx", "cc", "c", "h", "hpp", "swift", "kt",
      "dart"].contains ext then .compiled
  else if ["ts", "tsx", "js", "jsx", "mjs", "cjs", "py", "rb", "php", "lua", "sh", "bash", "r",
      "R", "sql"].contains ext then .scripting
  else if ["html", "htm", "css", "scss", "vue", "md", "markdown", "xml"].contains ext then .markup
  else if ["json", "toml", "yml", "yaml", "ini"].contains ext then .config
  else .other

def ofPath (path : String) : FileClass :=
  match Path.extension? path with
  | some ext => ofExtension ext
  | none => .other

/-- Milliseconds to validate a typical file of the class. -/
def baselineMs : FileClass → Nat
  | .compiled => 200
  | .scripting => 120
  | .markup => 80
  | .config => 30
  | .other => 100

end FileClass

/-- The largest multiple of the baseline that size adds. -/
def maxSizeFactor : Float := 2.0

/-- Size in mebibytes, at most `maxSizeFactor`. -/
def sizeFactor (sizeBytes : Nat) : Float := min (Float.ofNat sizeBytes / 1048576.0) maxSizeFactor

/-- Baseline times one plus the size factor, rounded half away from zero. The factor is
added to one rather than used alone, so that small files do not all cost nothing. -/
def estimateCostMs (path : String) (sizeBytes : Nat) : Nat :=
  let baseline := Float.ofNat (FileClass.ofPath path).baselineMs
  (baseline * (1.0 + sizeFactor sizeBytes)).round.toUInt64.toNat

end LintWatch.Schedule
