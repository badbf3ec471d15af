/-! Rule violations and the outcome of validating one file. -/
namespace LintWatch

/-- How serious one rule failure is. -/
inductive Severity where
  | critical
  | warning
  | info
  | suggestion
  deriving Repr, BEq, DecidableEq, Inhabited

def Severity.label : Severity → String
  | .critical => "CRITICAL"
  | .warning => "WARNING"
  | .info => "INFO"
  | .suggestion => "SUGGESTION"

def Severity.ofLabel? : String → Option Severity
  | "CRITICAL" => some .critical
  | "WARNING" => some .warning
  | "INFO" => some .info
  | "SUGGESTION" => some .suggestion
  | _ => none

/-- One rule failure in a file; `line` is 1-based when the rule points at one. -/
structure Violation where
  rule : String
  severity : Severity
  message : String
  line : Option Nat := none
  deriving Repr, BEq, DecidableEq, Inhabited

/-- The violations found in one file and how long finding them took. -/
structure ValidationResult where
  path : String
  violations : List Violation
  processingMs : Nat := 0
  deriving Repr, BEq, DecidableEq, Inhabited

namespace ValidationResult

/-- The number of violations of one severity. -/
def count (r : ValidationResult) (s : Severity) : Nat :=
  (r.violations.filter (·.severity == s)).length

def isClean (r : ValidationResult) : Bool := r.violations.isEmpty

/-- Counts by severity, most serious first. -/
def counts (r : ValidationResult) : List Nat :=
  [r.count .critical, r.count .warning, r.count .info, r.count .suggestion]

end ValidationResult

end LintWatch
