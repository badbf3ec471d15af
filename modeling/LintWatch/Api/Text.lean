import LintWatch.Api.Fields
import LintWatch.Rules.Validate

/-! Requests on the built-in rules: validate a text or raw bytes. -/
namespace LintWatch.Api

def violationJson (v : Violation) : Json :=
  .obj ([("rule", .str v.rule), ("severity", .str v.severity.label),
    ("message", .str v.message)] ++ (match v.line with
      | some n => [("line", .int n)]
      | none => []))

/-- The bytes of a request: `content` text or `hex` bytes. -/
def contentBytes (j : Json) : Decode ByteArray :=
  match member? j "content", member? j "hex" with
  | some (.str s), _ => .ok s.toUTF8
  | _, some (.str h) => hexBytes h
  | _, _ => bad "missing content or hex"

def answerRules (j : Json) : Decode Json := do
  let bytes ← contentBytes j
  let limit ← natOr j "max_line_length" Rules.defaultLineLimit
  let path ← stringOr j "path" "sample.ts"
  match Rules.validate limit path bytes with
  | .ok vs => .ok (.obj [("violations", .arr (vs.map violationJson))])
  | .error e => .ok (answerError "Encoding" (some e.message))

end LintWatch.Api
