import LintWatch.Violation
import LintWatch.Rules.Lines
import LintWatch.Rules.Patterns

/-! The built-in rule set. Each line is checked on its own, in the order credential, length,
marker, trailing blanks; lines are numbered from 1. A file must be UTF-8 text. -/
namespace LintWatch.Rules

/-- The line length limit used when none is given. -/
def defaultLineLimit : Nat := 120

/-- Why a file could not be validated. -/
inductive ValidationError where
  | encoding (path : String)
  deriving Repr, BEq, DecidableEq

def ValidationError.message : ValidationError → String
  | .encoding path => s!"Content of {path} is not valid UTF-8"

/-- The violations of one line, numbered `number`. -/
def checkLine (limit : Nat) (number : Nat) (line : List Char) : List Violation :=
  let credential :=
    if hasCredential line then
      [{ rule := "hardcoded-secret", severity := .critical,
         message := "Possible hardcoded credential", line := some number }]
    else []
  let length :=
    if line.length > limit then
      [{ rule := "line-length", severity := .warning,
         message := s!"Line is {line.length} characters (limit {limit})", line := some number }]
    else []
  let marker := match firstMarker line with
    | some w =>
      [{ rule := "unresolved-marker", severity := .info,
         message := s!"Unresolved {w} marker", line := some number }]
    | none => []
  let trailing :=
    if hasTrailingBlank line then
      [{ rule := "trailing-whitespace", severity := .suggestion,
         message := "Trailing whitespace", line := some number }]
    else []
  credential ++ length ++ marker ++ trailing

/-- Violations of the lines, the first numbered `start`. -/
def checkLines (limit : Nat) (start : Nat) : List (List Char) → List Violation
  | [] => []
  | line :: rest => checkLine limit start line ++ checkLines limit (start + 1) rest

/-- Violations of a text. -/
def checkText (limit : Nat) (text : String) : List Violation :=
  checkLines limit 1 (lines text.toList)

/-- Validates a file's bytes: UTF-8 text, then every line. -/
def validate (limit : Nat) (path : String) (content : ByteArray) :
    Except ValidationError (List Violation) :=
  match String.fromUTF8? content with
  | some text => .ok (checkText limit text)
  | none => .error (.encoding path)

end LintWatch.Rules
