import LintWatch.Metrics.Effectiveness
import LintWatch.Metrics.Timestamp

/-! The history of a watch: records of its counters and scores over time, oldest first,
trimmed to a retention count whenever one is added. A retention of zero keeps one record. -/
namespace LintWatch.Metrics

/-- What a watch had done and how well, at one moment. -/
structure Record where
  timestamp : Timestamp
  counters : Counters
  snapshot : Snapshot
  trend : Trend := .stable
  deriving Inhabited

/-- The version of the history format written. -/
def historyVersion : Nat := 1

/-- Records, oldest first, with the format version they were read with. -/
structure History where
  version : Nat := historyVersion
  entries : List Record := []
  deriving Inhabited

namespace History

def size (h : History) : Nat := h.entries.length

def isEmpty (h : History) : Bool := h.entries.isEmpty

/-- Adds a record and drops the oldest beyond `retention` (at least one). -/
def push (h : History) (r : Record) (retention : Nat) : History :=
  let entries := h.entries ++ [r]
  { h with entries := entries.drop (entries.length - max retention 1) }

def latest (h : History) : Option Record := h.entries.getLast?

/-- The newest `n` records, oldest first. -/
def lastN (h : History) (n : Nat) : List Record := h.entries.drop (h.entries.length - n)

end History

end LintWatch.Metrics
