import LintWatch.Json.Value
import LintWatch.Decimal.Render

/-! Writing `Json` as text, compact or indented by two spaces per level. Strings escape the
quote, the backslash and control characters; floats use the JSON notation of
`Decimal.Notation.json`, and a float with no finite value is written `null`. -/
namespace LintWatch.Json

def hexDigit (n : Nat) : Char :=
  if n < 10 then Char.ofNat ('0'.toNat + n) else Char.ofNat ('a'.toNat + n - 10)

def escapeChar (c : Char) : List Char :=
  match c with
  | '"' => ['\\', '"']
  | '\\' => ['\\', '\\']
  | '\n' => ['\\', 'n']
  | '\r' => ['\\', 'r']
  | '\t' => ['\\', 't']
  | '\x08' => ['\\', 'b']
  | '\x0c' => ['\\', 'f']
  | c =>
    if c.toNat < 0x20 then ['\\', 'u', '0', '0', hexDigit (c.toNat / 16), hexDigit (c.toNat % 16)]
    else [c]

/-- A string literal, quotes included. -/
def quote (s : String) : String :=
  String.ofList ('"' :: (s.toList.flatMap escapeChar ++ ['"']))

def numberText (x : Float) : String := (Decimal.jsonText? x).getD "null"

mutual
/-- Compact text: no blanks between tokens. -/
def compress : Json → String
  | null => "null"
  | bool b => if b then "true" else "false"
  | int i => toString i
  | float x => numberText x
  | str s => quote s
  | arr xs => "[" ++ compressItems xs ++ "]"
  | obj fs => "\x7b" ++ compressFields fs ++ "\x7d"

def compressItems : List Json → String
  | [] => ""
  | [x] => compress x
  | x :: xs => compress x ++ "," ++ compressItems xs

def compressFields : List (String × Json) → String
  | [] => ""
  | [(k, v)] => quote k ++ ":" ++ compress v
  | (k, v) :: fs => quote k ++ ":" ++ compress v ++ "," ++ compressFields fs
end

def indent (level : Nat) : String := String.ofList (List.replicate (2 * level) ' ')

mutual
/-- Indented text: each item and member on its own line, two spaces per level, `": "` after
a key; empty arrays and objects stay `[]` and `{}`. -/
def prettyAt (level : Nat) : Json → String
  | arr [] => "[]"
  | obj [] => "\x7b\x7d"
  | arr xs => "[\n" ++ prettyItems (level + 1) xs ++ "\n" ++ indent level ++ "]"
  | obj fs => "\x7b\n" ++ prettyFields (level + 1) fs ++ "\n" ++ indent level ++ "\x7d"
  | null => "null"
  | bool b => if b then "true" else "false"
  | int i => toString i
  | float x => numberText x
  | str s => quote s

def prettyItems (level : Nat) : List Json → String
  | [] => ""
  | [x] => indent level ++ prettyAt level x
  | x :: xs => indent level ++ prettyAt level x ++ ",\n" ++ prettyItems level xs

def prettyFields (level : Nat) : List (String × Json) → String
  | [] => ""
  | [(k, v)] => indent level ++ quote k ++ ": " ++ prettyAt level v
  | (k, v) :: fs => indent level ++ quote k ++ ": " ++ prettyAt level v ++ ",\n" ++
      prettyFields level fs
end

def pretty (j : Json) : String := prettyAt 0 j

end LintWatch.Json
