import LintWatch.Metrics.Counters
import LintWatch.Metrics.FloatRules
import LintWatch.Metrics.Ring

/-! How much a session's validations were worth. Each violation found is taken to save some
minutes of review, more for serious ones; the score weighs the time saved against a target,
the share of files without violations beyond half, the violations per file, and the share of
clean files. The return on the session compares the time saved with a tenth of the session's
own length, both at the hourly rate. The trend compares the mean of the five newest scores
with the five before them. -/
namespace LintWatch.Metrics

/-- The worth of a session at one moment. -/
structure Snapshot where
  score : Nat
  timeSavedHours : Float
  complianceRatePct : Float
  productivityGainPct : Float
  qualityImprovementPct : Float
  standardsAdoptionPct : Float
  roiPct : Float
  deriving Inhabited

/-- The two rates a snapshot is computed with. -/
structure Model where
  hourlyRate : Float := 50.0
  timeSavedTargetHours : Float := 8.0
  deriving Inhabited

/-- Hours of review saved by the violations counted. -/
def timeSavedHours (c : Counters) : Float :=
  Float.ofNat c.violationsDetected * (0.25 / 60.0) + Float.ofNat c.criticalViolations * 2.0 +
    Float.ofNat c.warnings * (0.5 / 60.0) + Float.ofNat c.infoViolations * (0.1 / 60.0) +
    Float.ofNat c.suggestions * (0.05 / 60.0)

namespace Model

/-- Hours saved as a percentage of the target, at most one hundred. -/
def timeSavedPct (m : Model) (hours : Float) : Float :=
  if m.timeSavedTargetHours ≤ 0.0 then 0.0
  else fmin (hours / m.timeSavedTargetHours) 1.0 * 100.0

def snapshot (m : Model) (c : Counters) (sessionMinutes : Float) : Snapshot :=
  let files := Float.ofNat (max c.filesChanged 1)
  let violations := Float.ofNat c.violationsDetected
  let saved := timeSavedHours c
  let compliance := fclamp ((Float.ofNat c.filesChanged - violations) / files * 100.0) 0.0 100.0
  let productivity := fmax ((compliance - 50.0) / 50.0 * 100.0) 0.0
  let quality := fmax (100.0 - violations / files * 100.0) 0.0
  let adoption := fmin (Float.ofNat c.cleanFiles / files * 100.0) 100.0
  let weighted := 0.3 * m.timeSavedPct saved + 0.25 * productivity + 0.25 * quality +
    0.2 * adoption
  let overhead := fmax sessionMinutes 0.0 / 60.0 * m.hourlyRate * 0.1
  let roi := if overhead != 0.0 then (saved * m.hourlyRate - overhead) / overhead * 100.0 else 0.0
  { score := toCount32 (fclamp weighted.round 0.0 100.0)
    timeSavedHours := saved
    complianceRatePct := compliance
    productivityGainPct := productivity
    qualityImprovementPct := quality
    standardsAdoptionPct := adoption
    roiPct := roi }

end Model

/-- Which way the scores are going. -/
inductive Trend where
  | improving
  | declining
  | stable
  deriving Repr, BEq, DecidableEq, Inhabited

def Trend.label : Trend → String
  | .improving => "improving"
  | .declining => "declining"
  | .stable => "stable"

def Trend.ofLabel? : String → Option Trend
  | "improving" => some .improving
  | "declining" => some .declining
  | "stable" => some .stable
  | _ => none

/-- Scores over a window of at least ten. -/
structure TrendTracker where
  scores : Ring Nat
  deriving Inhabited

namespace TrendTracker

def new (window : Nat) : TrendTracker := ⟨Ring.new (max window 10)⟩

def record (t : TrendTracker) (score : Nat) : TrendTracker := ⟨(t.scores.push score).2⟩

def mean (xs : List Nat) : Float :=
  xs.foldl (fun acc x => acc + Float.ofNat x) 0.0 / Float.ofNat xs.length

/-- Stable until ten scores are known; then improving when the five newest average at least
five more than the five before them, declining when at least five less. -/
def trend (t : TrendTracker) : Trend :=
  if t.scores.size < 10 then .stable
  else
    let newest := t.scores.newest 10
    let delta := mean (newest.take 5) - mean (newest.drop 5)
    if delta ≥ 5.0 then .improving else if delta ≤ -5.0 then .declining else .stable

end TrendTracker

end LintWatch.Metrics
