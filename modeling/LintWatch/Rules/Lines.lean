/-! Lines of a text. A newline ends a line; a carriage return right before it belongs to
the line end; a final newline ends the last line instead of opening an empty one, so the
empty text has no lines. -/
namespace LintWatch.Rules

/-- Drops one carriage return at the end of a line. -/
def dropReturn (line : List Char) : List Char :=
  match line.getLast? with
  | some '\r' => line.dropLast
  | _ => line

/-- Lines of `cs` after the partial line `current` (newest character first). -/
def linesFrom (current : List Char) : List Char → List (List Char)
  | [] => if current.isEmpty then [] else [current.reverse]
  | '\n' :: rest => dropReturn current.reverse :: linesFrom [] rest
  | c :: rest => linesFrom (c :: current) rest

def lines (cs : List Char) : List (List Char) := linesFrom [] cs

end LintWatch.Rules
