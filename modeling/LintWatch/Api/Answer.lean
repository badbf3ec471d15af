import LintWatch.Json.Parse
import LintWatch.Json.Print
import LintWatch.Api.Text
import LintWatch.Api.Filter
import LintWatch.Api.Watch
import LintWatch.Api.Metrics
import LintWatch.Api.Guard
import LintWatch.Api.Config
import LintWatch.Api.History
import LintWatch.Api.Service
import LintWatch.Api.Detector
import LintWatch.Api.Cli

/-! One request line in, one answer line out. The request is a JSON object whose `op`
names the operation. -/
namespace LintWatch.Api

def dispatch (op : String) (j : Json) : Decode Json :=
  match op with
  | "rules" => answerRules j
  | "cost" => answerCost j
  | "classify" => answerClassify j
  | "filter" => answerFilter j
  | "extensions" => .ok answerExtensions
  | "scheduler" => answerScheduler j
  | "translate" => answerEvents j
  | "scan" => answerScan j
  | "ring" => answerRing j
  | "trend" => answerTrend j
  | "effectiveness" => answerEffectiveness j
  | "aggregate" => answerAggregate j
  | "guard" => answerGuard j
  | "config" => answerConfig j
  | "history" => answerHistory j
  | "service" => answerService j
  | "detector" => answerDetector j
  | "cli" => answerCli j
  | _ => bad s!"unknown op {op}"

/-- The answer to a request object. -/
def answerJson (j : Json) : Json :=
  let op := match member? j "op" with
    | some (.str s) => s
    | _ => ""
  match dispatch op j with
  | .ok a => a
  | .error r => r.answer

/-- The answer line to a request line. -/
def answer (line : String) : String :=
  match Json.parse line with
  | .ok j => Json.compress (answerJson j)
  | .error _ => Json.compress (answerError "BadInput" (some "request is not JSON"))

end LintWatch.Api
