import LintWatch.Toml.Table
import LintWatch.Json.Parse

/-! Reading TOML 1.0 text. A document is a run of lines, each blank, a comment, a header
`[a.b]` or `[[a.b]]`, or a pair `key = value`, each of them possibly followed by a comment.
Integers are 64-bit and signed, written in decimal or with `0x`, `0o` or `0b`, with single
underscores between digits and no leading zeros; floats may be `inf` and `nan` with a sign,
and a decimal float that overflows upwards is refused. Dates and times are checked and kept as
their text. -/
namespace LintWatch.Toml

def isSpace (c : Char) : Bool := c == ' ' || c == '\t'

def skipSpaces (cs : List Char) : List Char := cs.dropWhile isSpace

def isDigit (c : Char) : Bool := '0' ≤ c && c ≤ '9'

def isBareKeyChar (c : Char) : Bool :=
  ('a' ≤ c && c ≤ 'z') || ('A' ≤ c && c ≤ 'Z') || isDigit c || c == '_' || c == '-'

/-- A character that may stand in a comment or a string as it is: a tab, or anything but a
control character. -/
def isPlainChar (c : Char) : Bool := c == '\t' || (c.toNat ≥ 0x20 && c.toNat != 0x7F)

/-- After the `#` of a comment: the text from the end of its line. -/
def skipComment (cs : List Char) : Except String (List Char) :=
  let body := cs.takeWhile fun c => c != '\n' && c != '\r'
  if body.all isPlainChar then .ok (cs.drop body.length) else .error "control character in comment"

/-- The end of a line: blanks, perhaps a comment, then a line break or the end of the text. -/
def endLine (cs : List Char) : Except String (List Char) := do
  let cs ← match skipSpaces cs with
    | '#' :: rest => skipComment rest
    | cs => pure cs
  match cs with
  | [] => pure []
  | '\n' :: rest => pure rest
  | '\r' :: '\n' :: rest => pure rest
  | _ => throw "expected the end of the line"

/-- Blanks, comments and line breaks, as they may stand between the items of an array. -/
def skipGaps : Nat → List Char → Except String (List Char)
  | 0, cs => .ok cs
  | fuel + 1, cs =>
    match cs with
    | ' ' :: rest | '\t' :: rest | '\n' :: rest => skipGaps fuel rest
    | '\r' :: '\n' :: rest => skipGaps fuel rest
    | '#' :: rest => do skipGaps fuel (← skipComment rest)
    | _ => .ok cs

/-- The value of hexadecimal digits. -/
def hexNumber? (ds : List Char) : Option Nat :=
  ds.foldlM (fun n c => (Json.hexValue? c).map (16 * n + ·)) 0

/-- A `\u` or `\U` escape of `n` digits: the character, and the text after it. -/
def unicodeEscape (n : Nat) (cs : List Char) : Except String (Char × List Char) :=
  let ds := cs.take n
  match hexNumber? ds with
  | some v =>
    if ds.length == n && v.isValidChar then .ok (Char.ofNat v, cs.drop n)
    else .error "invalid unicode escape"
  | none => .error "invalid unicode escape"

/-- The character an escape stands for, read after its backslash. -/
def escape : List Char → Except String (Char × List Char)
  | 'b' :: rest => .ok ('\x08', rest)
  | 't' :: rest => .ok ('\t', rest)
  | 'n' :: rest => .ok ('\n', rest)
  | 'f' :: rest => .ok ('\x0c', rest)
  | 'r' :: rest => .ok ('\r', rest)
  | '"' :: rest => .ok ('"', rest)
  | '\\' :: rest => .ok ('\\', rest)
  | 'u' :: rest => unicodeEscape 4 rest
  | 'U' :: rest => unicodeEscape 8 rest
  | _ => .error "invalid escape"

/-- A basic string after its opening quote; `acc` holds the characters read, newest first. -/
def basicBody : Nat → List Char → List Char → Except String (String × List Char)
  | 0, _, _ => .error "unterminated string"
  | fuel + 1, acc, cs =>
    match cs with
    | '"' :: rest => .ok (String.ofList acc.reverse, rest)
    | '\\' :: rest => do
      let (c, rest) ← escape rest
      basicBody fuel (c :: acc) rest
    | c :: rest => if isPlainChar c then basicBody fuel (c :: acc) rest
      else .error "control character in string"
    | [] => .error "unterminated string"

/-- The text after a backslash that ends a line of a multi-line string: blanks and line
breaks are passed over. -/
def afterLineEndingBackslash (cs : List Char) : Option (List Char) :=
  match skipSpaces cs with
  | '\n' :: _ | '\r' :: '\n' :: _ =>
    some (cs.dropWhile fun c => c == ' ' || c == '\t' || c == '\n' || c == '\r')
  | _ => none

/-- A multi-line basic string after its opening quotes. Up to two quotes just before the
closing three belong to the string. -/
def multiBasicBody : Nat → List Char → List Char → Except String (String × List Char)
  | 0, _, _ => .error "unterminated string"
  | fuel + 1, acc, cs =>
    match cs with
    | '"' :: '"' :: '"' :: '"' :: '"' :: rest => .ok (String.ofList ('"' :: '"' :: acc).reverse, rest)
    | '"' :: '"' :: '"' :: '"' :: rest => .ok (String.ofList ('"' :: acc).reverse, rest)
    | '"' :: '"' :: '"' :: rest => .ok (String.ofList acc.reverse, rest)
    | '\n' :: rest => multiBasicBody fuel ('\n' :: acc) rest
    | '\r' :: '\n' :: rest => multiBasicBody fuel ('\n' :: acc) rest
    | '\\' :: rest =>
      match afterLineEndingBackslash rest with
      | some rest => multiBasicBody fuel acc rest
      | none => do
        let (c, rest) ← escape rest
        multiBasicBody fuel (c :: acc) rest
    | c :: rest => if isPlainChar c then multiBasicBody fuel (c :: acc) rest
      else .error "control character in string"
    | [] => .error "unterminated string"

/-- A literal string after its opening apostrophe: no escapes. -/
def literalBody (acc : List Char) : List Char → Except String (String × List Char)
  | '\'' :: rest => .ok (String.ofList acc.reverse, rest)
  | c :: rest => if isPlainChar c then literalBody (c :: acc) rest
    else .error "control character in string"
  | [] => .error "unterminated string"

/-- A multi-line literal string after its opening apostrophes. -/
def multiLiteralBody (acc : List Char) : List Char → Except String (String × List Char)
  | '\'' :: '\'' :: '\'' :: '\'' :: '\'' :: rest =>
    .ok (String.ofList ('\'' :: '\'' :: acc).reverse, rest)
  | '\'' :: '\'' :: '\'' :: '\'' :: rest => .ok (String.ofList ('\'' :: acc).reverse, rest)
  | '\'' :: '\'' :: '\'' :: rest => .ok (String.ofList acc.reverse, rest)
  | '\n' :: rest => multiLiteralBody ('\n' :: acc) rest
  | '\r' :: '\n' :: rest => multiLiteralBody ('\n' :: acc) rest
  | c :: rest => if isPlainChar c then multiLiteralBody (c :: acc) rest
    else .error "control character in string"
  | [] => .error "unterminated string"

/-- The text of a multi-line string without the line break right after its opening. -/
def dropFirstBreak : List Char → List Char
  | '\n' :: rest => rest
  | '\r' :: '\n' :: rest => rest
  | cs => cs

/-- One part of a key: bare, or quoted as a one-line string. -/
def simpleKey (cs : List Char) : Except String (String × List Char) :=
  match cs with
  | '"' :: rest => basicBody (rest.length + 1) [] rest
  | '\'' :: rest => literalBody [] rest
  | _ =>
    let name := cs.takeWhile isBareKeyChar
    if name.isEmpty then .error "expected a key" else .ok (String.ofList name, cs.drop name.length)

/-- A key of one or more parts joined by dots, with blanks allowed around the dots. -/
def dottedKey : Nat → List String → List Char → Except String ((List String) × List Char)
  | 0, _, _ => .error "key too long"
  | fuel + 1, parts, cs => do
    let (part, rest) ← simpleKey (skipSpaces cs)
    match skipSpaces rest with
    | '.' :: more => dottedKey fuel (part :: parts) more
    | _ => .ok ((part :: parts).reverse, rest)

def key (cs : List Char) : Except String ((List String) × List Char) := dottedKey (cs.length + 1) [] cs

/-- Digits with single underscores between them, the first a digit: the digits, and the
text after them. -/
def digitRun (ok : Char → Bool) (acc : List Char) : List Char → List Char × List Char
  | '_' :: d :: rest => if ok d then digitRun ok (d :: acc) rest else (acc.reverse, '_' :: d :: rest)
  | d :: rest => if ok d then digitRun ok (d :: acc) rest else (acc.reverse, d :: rest)
  | [] => (acc.reverse, [])

/-- A run of digits that starts with a digit, and the text after it. -/
def digitsFrom (ok : Char → Bool) : List Char → Option (List Char × List Char)
  | d :: rest => if ok d then some (digitRun ok [d] rest) else none
  | [] => none

def i64Max : Nat := Nat.pow 2 63 - 1

/-- An integer in base 16, 8 or 2, after its prefix. -/
def radixInteger (base : Nat) (ok : Char → Bool) (cs : List Char) : Except String Value :=
  match digitsFrom ok cs with
  | some (ds, []) =>
    let n := ds.foldl (fun n c => base * n + ((Json.hexValue? c).getD 0)) 0
    if n ≤ i64Max then .ok (.int n) else .error "integer out of range"
  | _ => .error "invalid integer"

/-- The digits of a whole part: `0`, or digits that do not start with `0`. -/
def wholePart : List Char → Option (List Char × List Char)
  | '0' :: rest => some (['0'], rest)
  | cs => digitsFrom isDigit cs

/-- A decimal integer or float: an optional sign, a whole part, then an optional fraction
and exponent. -/
def decimalNumber (cs : List Char) : Except String Value := do
  let (negative, cs) := match cs with
    | '-' :: rest => (true, rest)
    | '+' :: rest => (false, rest)
    | _ => (false, cs)
  let some (whole, cs) := wholePart cs | throw "invalid number"
  let (frac, cs, hasFrac) ← match cs with
    | '.' :: rest => match digitsFrom isDigit rest with
      | some (ds, rest) => pure (ds, rest, true)
      | none => throw "invalid fraction"
    | _ => pure ([], cs, false)
  let (expNeg, expDigits, cs, hasExp) ← match cs with
    | 'e' :: rest | 'E' :: rest =>
      let (en, rest) := match rest with
        | '-' :: r => (true, r)
        | '+' :: r => (false, r)
        | _ => (false, rest)
      match digitsFrom isDigit rest with
      | some (ds, rest) => pure (en, ds, rest, true)
      | none => throw "invalid exponent"
    | _ => pure (false, [], cs, false)
  if !cs.isEmpty then throw "invalid number"
  if !hasFrac && !hasExp then
    let n := Json.digitsValue whole
    if negative then
      if n ≤ Nat.pow 2 63 then pure (.int (-(n : Int))) else throw "integer out of range"
    else if n ≤ i64Max then pure (.int n) else throw "integer out of range"
  else
    let ev := (Json.digitsValue expDigits : Int)
    let e : Int := (if expNeg then -ev else ev) - frac.length
    let magnitude := Json.scaledFloat (Json.digitsValue (whole ++ frac)) e
    if negative then pure (.float (-magnitude))
    else if magnitude.isInf then throw "float out of range"
    else pure (.float magnitude)

/-- Exactly `n` digits, their value, and the text after them. -/
def fixedDigits (n : Nat) (cs : List Char) : Option (Nat × List Char) :=
  let ds := cs.take n
  if ds.length == n && ds.all isDigit then some (Json.digitsValue ds, cs.drop n) else none

def isLeapYear (y : Nat) : Bool := y % 4 == 0 && (y % 100 != 0 || y % 400 == 0)

def daysInMonth (y m : Nat) : Nat :=
  if m == 2 then (if isLeapYear y then 29 else 28)
  else if m == 4 || m == 6 || m == 9 || m == 11 then 30 else 31

/-- A date `YYYY-MM-DD`, and the text after it. -/
def date (cs : List Char) : Option (List Char) := do
  let (y, cs) ← fixedDigits 4 cs
  let cs ← match cs with
    | '-' :: rest => some rest
    | _ => none
  let (m, cs) ← fixedDigits 2 cs
  let cs ← match cs with
    | '-' :: rest => some rest
    | _ => none
  let (d, cs) ← fixedDigits 2 cs
  if 1 ≤ m && m ≤ 12 && 1 ≤ d && d ≤ daysInMonth y m then some cs else none

/-- A time `HH:MM:SS` with an optional fraction of a second, and the text after it. -/
def time (cs : List Char) : Option (List Char) := do
  let (h, cs) ← fixedDigits 2 cs
  let cs ← match cs with
    | ':' :: rest => some rest
    | _ => none
  let (m, cs) ← fixedDigits 2 cs
  let cs ← match cs with
    | ':' :: rest => some rest
    | _ => none
  let (s, cs) ← fixedDigits 2 cs
  let cs ← match cs with
    | '.' :: rest =>
      let ds := rest.takeWhile isDigit
      if ds.isEmpty then none else some (rest.drop ds.length)
    | _ => some cs
  if h ≤ 23 && m ≤ 59 && s ≤ 60 then some cs else none

/-- A time offset: `Z`, or a sign with hours and minutes. -/
def offset : List Char → Option (List Char)
  | 'Z' :: rest | 'z' :: rest => some rest
  | '+' :: rest | '-' :: rest => do
    let (h, rest) ← fixedDigits 2 rest
    let rest ← match rest with
      | ':' :: more => some more
      | _ => none
    let (m, rest) ← fixedDigits 2 rest
    if h ≤ 23 && m ≤ 59 then some rest else none
  | _ => none

/-- Whether a text is a date, a time, or a date and time with an optional offset. -/
def isDatetime (cs : List Char) : Bool :=
  match date cs with
  | some [] => true
  | some (sep :: rest) =>
    if sep == 'T' || sep == 't' || sep == ' ' then
      match time rest with
      | some [] => true
      | some more => offset more == some []
      | none => false
    else false
  | none => time cs == some []

/-- Characters of a number, a date or a time. -/
def isScalarChar (c : Char) : Bool := isBareKeyChar c || c == '+' || c == '.' || c == ':'

/-- A number, a date or a time. A date may be followed by a blank and a time. -/
def scalar (cs : List Char) : Except String (Value × List Char) :=
  let word := cs.takeWhile isScalarChar
  let rest := cs.drop word.length
  let (word, rest) := match date word, rest with
    | some [], ' ' :: a :: b :: ':' :: _ =>
      if isDigit a && isDigit b then
        let more := (rest.drop 1).takeWhile isScalarChar
        (word ++ ' ' :: more, rest.drop (1 + more.length))
      else (word, rest)
    | _, _ => (word, rest)
  let value : Except String Value := match word with
    | [] => .error "expected a value"
    | ['i', 'n', 'f'] | ['+', 'i', 'n', 'f'] => .ok (.float (1.0 / 0.0))
    | ['-', 'i', 'n', 'f'] => .ok (.float (-1.0 / 0.0))
    | ['n', 'a', 'n'] | ['+', 'n', 'a', 'n'] => .ok (.float (0.0 / 0.0))
    | ['-', 'n', 'a', 'n'] => .ok (.float (-(0.0 / 0.0)))
    | '0' :: 'x' :: ds => radixInteger 16 (fun c => (Json.hexValue? c).isSome) ds
    | '0' :: 'o' :: ds => radixInteger 8 (fun c => '0' ≤ c && c ≤ '7') ds
    | '0' :: 'b' :: ds => radixInteger 2 (fun c => c == '0' || c == '1') ds
    | _ =>
      if word.any (· == ':') || (word.length ≥ 5 && word[4]? == some '-' &&
          (word.take 4).all isDigit) then
        if isDatetime word then .ok (.datetime (String.ofList word)) else .error "invalid date"
      else decimalNumber word
  value.map (·, rest)

/-- After `=` or `,` in an inline table: the blanks, an equals sign, and the blanks after. -/
def equalsSign (cs : List Char) : Except String (List Char) :=
  match skipSpaces cs with
  | '=' :: rest => .ok (skipSpaces rest)
  | _ => .error "expected ="

mutual
/-- One value. `fuel` bounds the steps of reading nested arrays and inline tables. -/
def value : Nat → List Char → Except String (Value × List Char)
  | 0, _ => .error "nested too deeply"
  | fuel + 1, cs =>
    match cs with
    | '"' :: '"' :: '"' :: rest => do
      let rest := dropFirstBreak rest
      let (s, rest) ← multiBasicBody (rest.length + 1) [] rest
      .ok (.str s, rest)
    | '"' :: rest => do
      let (s, rest) ← basicBody (rest.length + 1) [] rest
      .ok (.str s, rest)
    | '\'' :: '\'' :: '\'' :: rest => do
      let (s, rest) ← multiLiteralBody [] (dropFirstBreak rest)
      .ok (.str s, rest)
    | '\'' :: rest => do
      let (s, rest) ← literalBody [] rest
      .ok (.str s, rest)
    | '[' :: rest => arrayItems fuel [] rest
    | '{' :: rest =>
      match skipSpaces rest with
      | '}' :: more => .ok (.table [], more)
      | _ => inlinePairs fuel [] rest
    | 't' :: 'r' :: 'u' :: 'e' :: rest => .ok (.bool true, rest)
    | 'f' :: 'a' :: 'l' :: 's' :: 'e' :: rest => .ok (.bool false, rest)
    | _ => scalar cs

/-- The items of an array after its `[`; a comma may follow the last. -/
def arrayItems : Nat → List Value → List Char → Except String (Value × List Char)
  | 0, _, _ => .error "nested too deeply"
  | fuel + 1, items, cs => do
    let cs ← skipGaps (cs.length + 1) cs
    match cs with
    | ']' :: rest => .ok (.arr items.reverse, rest)
    | _ =>
      let (v, rest) ← value fuel cs
      let rest ← skipGaps (rest.length + 1) rest
      match rest with
      | ',' :: more => arrayItems fuel (v :: items) more
      | ']' :: more => .ok (.arr (v :: items).reverse, more)
      | _ => .error "expected , or ]"

/-- The pairs of an inline table after its `{`, on one line and without a trailing comma. -/
def inlinePairs : Nat → List (List String × Value) → List Char → Except String (Value × List Char)
  | 0, _, _ => .error "nested too deeply"
  | fuel + 1, pairs, cs => do
    let (path, rest) ← key cs
    let rest ← equalsSign rest
    let (v, rest) ← value fuel rest
    let pairs := (path, v) :: pairs
    match skipSpaces rest with
    | ',' :: more => inlinePairs fuel pairs more
    | '}' :: more => .ok (← inlineTable pairs.reverse, more)
    | _ => .error "expected , or \x7d"
end

/-- The lines of a document; each round reads at least one character. -/
def lines : Nat → Reader → List Char → Except String Reader
  | 0, _, _ => .error "document too long"
  | fuel + 1, r, cs =>
    match skipSpaces cs with
    | [] => .ok r
    | '\n' :: rest => lines fuel r rest
    | '\r' :: '\n' :: rest => lines fuel r rest
    | '#' :: rest => do lines fuel r (← endLine ('#' :: rest))
    | '[' :: '[' :: rest => do
      let (path, rest) ← key rest
      match skipSpaces rest with
      | ']' :: ']' :: rest => lines fuel (← r.arrayHeader path) (← endLine rest)
      | _ => .error "expected ]]"
    | '[' :: rest => do
      let (path, rest) ← key rest
      match skipSpaces rest with
      | ']' :: rest => lines fuel (← r.header path) (← endLine rest)
      | _ => .error "expected ]"
    | cs => do
      let (parts, rest) ← key cs
      let rest ← equalsSign rest
      let (v, rest) ← value (rest.length + 1) rest
      match parts.getLast? with
      | some k => lines fuel (← r.pair parts.dropLast k v) (← endLine rest)
      | none => .error "expected a key"

/-- Reads a document into its table of members. -/
def parse (text : String) : Except String Value := do
  let cs := match text.toList with
    | '﻿' :: rest => rest
    | cs => cs
  let r ← lines (cs.length + 1) {} cs
  r.close

end LintWatch.Toml
