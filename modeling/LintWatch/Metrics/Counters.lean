import LintWatch.Violation

/-! Running totals over every file validated in a session. -/
namespace LintWatch.Metrics

structure Counters where
  filesChanged : Nat := 0
  violationsDetected : Nat := 0
  criticalViolations : Nat := 0
  warnings : Nat := 0
  infoViolations : Nat := 0
  suggestions : Nat := 0
  cleanFiles : Nat := 0
  totalProcessingMs : Nat := 0
  deriving Repr, BEq, DecidableEq, Inhabited

namespace Counters

/-- Counts one validated file: its violations by severity, whether it was clean, and its
time. -/
def apply (c : Counters) (r : ValidationResult) : Counters :=
  { c with
    filesChanged := c.filesChanged + 1
    totalProcessingMs := c.totalProcessingMs + r.processingMs
    cleanFiles := c.cleanFiles + (if r.isClean then 1 else 0)
    violationsDetected := c.violationsDetected + r.violations.length
    criticalViolations := c.criticalViolations + r.count .critical
    warnings := c.warnings + r.count .warning
    infoViolations := c.infoViolations + r.count .info
    suggestions := c.suggestions + r.count .suggestion }

/-- Mean validation time per file, zero before any file. -/
def averageProcessingMs (c : Counters) : Float :=
  if c.filesChanged == 0 then 0.0
  else Float.ofNat c.totalProcessingMs / Float.ofNat c.filesChanged

end Counters

end LintWatch.Metrics
