import LintWatch.Metrics.Counters
import LintWatch.Metrics.Ring

/-! The record of a session's validations: running totals, and the newest results. -/
namespace LintWatch.Metrics

structure Aggregator where
  counters : Counters := {}
  recent : Ring ValidationResult
  deriving Inhabited

namespace Aggregator

def new (recentCapacity : Nat) : Aggregator := { recent := Ring.new recentCapacity }

def record (a : Aggregator) (r : ValidationResult) : Aggregator :=
  { counters := a.counters.apply r, recent := (a.recent.push r).2 }

/-- Up to `n` results, newest first. -/
def newest (a : Aggregator) (n : Nat) : List ValidationResult := a.recent.newest n

end Aggregator

end LintWatch.Metrics
