import LintWatch.Toml.Value
import LintWatch.Decimal.Render

/-! Writing TOML text. A table's plain members come first as `key = value` lines, then each
member table as a section under its dotted header, recursively. Floats are written in
positional notation with at least one fraction digit, or as `inf`, `-inf` and `nan`;
strings are basic strings with escapes. Integers must be 64-bit and signed: any other makes
the document unwritable. -/
namespace LintWatch.Toml

/-- Positional notation, always with a fraction. -/
def floatNotation : Decimal.Notation := ⟨-100000, 100000, 1⟩

def floatText (x : Float) : String :=
  if x.isNaN then "nan"
  else if x.isInf then (if x > 0 then "inf" else "-inf")
  else (Decimal.ofFloat x).text floatNotation

def hexDigitChar (n : Nat) : Char :=
  if n < 10 then Char.ofNat ('0'.toNat + n) else Char.ofNat ('A'.toNat + n - 10)

/-- A character inside a basic string. -/
def escapeChar (c : Char) : String :=
  match c with
  | '"' => "\\\""
  | '\\' => "\\\\"
  | '\x08' => "\\b"
  | '\t' => "\\t"
  | '\n' => "\\n"
  | '\x0c' => "\\f"
  | '\r' => "\\r"
  | c =>
    if c.toNat < 0x20 || c.toNat == 0x7F then
      "\\u00" ++ String.ofList [hexDigitChar (c.toNat / 16), hexDigitChar (c.toNat % 16)]
    else String.singleton c

def quoted (s : String) : String := "\"" ++ String.join (s.toList.map escapeChar) ++ "\""

def isBareKey (k : String) : Bool :=
  !k.isEmpty && k.toList.all fun c =>
    ('a' ≤ c && c ≤ 'z') || ('A' ≤ c && c ≤ 'Z') || ('0' ≤ c && c ≤ '9') || c == '_' || c == '-'

def keyText (k : String) : String := if isBareKey k then k else quoted k

def fitsI64 (i : Int) : Bool := -(Nat.pow 2 63 : Int) ≤ i && i < Nat.pow 2 63

mutual
/-- A value written after an equals sign. -/
def inlineText : Value → Except String String
  | .str s => .ok (quoted s)
  | .int i => if fitsI64 i then .ok (toString i) else .error "integer out of range"
  | .float x => .ok (floatText x)
  | .bool b => .ok (if b then "true" else "false")
  | .datetime text => .ok text
  | .arr items => do
    let parts ← itemsText items
    .ok ("[" ++ ", ".intercalate parts ++ "]")
  | .table fields => do
    let parts ← pairsText fields
    .ok (if parts.isEmpty then "\x7b\x7d" else "\x7b " ++ ", ".intercalate parts ++ " \x7d")

def itemsText : List Value → Except String (List String)
  | [] => .ok []
  | v :: vs => do .ok ((← inlineText v) :: (← itemsText vs))

def pairsText : List (String × Value) → Except String (List String)
  | [] => .ok []
  | (k, v) :: rest => do .ok ((keyText k ++ " = " ++ (← inlineText v)) :: (← pairsText rest))
end

def isTable : Value → Bool
  | .table _ => true
  | _ => false

/-- The lines of a table below the header `path`: its plain members, then its tables as
sections. `fuel` bounds the depth of the tables written as sections. -/
def tableText : Nat → List String → List (String × Value) → Except String String
  | 0, _, fields => do
    let parts ← pairsText fields
    .ok (String.join (parts.map (· ++ "\n")))
  | fuel + 1, path, fields => do
    let plain ← pairsText (fields.filter fun (_, v) => !isTable v)
    let mut text := String.join (plain.map (· ++ "\n"))
    for (k, v) in fields do
      if let .table sub := v then
        let here := path ++ [k]
        let body ← tableText fuel here sub
        let header := "[" ++ ".".intercalate (here.map keyText) ++ "]\n"
        text := text ++ (if text.isEmpty then "" else "\n") ++ header ++ body
    .ok text

/-- The text of a document. -/
def print (fields : List (String × Value)) : Except String String := tableText 16 [] fields

end LintWatch.Toml
