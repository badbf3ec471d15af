import LintWatch.Json.Value

/-! Reading JSON text (RFC 8259) into `Json`. Numbers without a fraction or exponent that fit
an unsigned or signed 64-bit word stay integers; `-0` and all others become floats, and a
float that overflows is refused. Nesting is limited to 128 levels. -/
namespace LintWatch.Json

/-- Why a text is not a JSON document. -/
inductive ParseError where
  | endOfInput
  | unexpected (c : Char)
  | badNumber
  | outOfRange
  | badEscape
  | controlCharacter
  | tooDeep
  | trailing
  deriving Repr, BEq

def isBlank (c : Char) : Bool := c == ' ' || c == '\t' || c == '\n' || c == '\r'

def skipBlanks : List Char → List Char
  | c :: cs => if isBlank c then skipBlanks cs else c :: cs
  | [] => []

def hexValue? (c : Char) : Option Nat :=
  if '0' ≤ c && c ≤ '9' then some (c.toNat - '0'.toNat)
  else if 'a' ≤ c && c ≤ 'f' then some (c.toNat - 'a'.toNat + 10)
  else if 'A' ≤ c && c ≤ 'F' then some (c.toNat - 'A'.toNat + 10)
  else none

def hex4? (a b c d : Char) : Option Nat := do
  let a ← hexValue? a
  let b ← hexValue? b
  let c ← hexValue? c
  let d ← hexValue? d
  some (((a * 16 + b) * 16 + c) * 16 + d)

/-- The body of a string after its opening quote; `acc` holds the characters read, newest
first. A `\u` escape of a leading surrogate must be followed by one of a trailing surrogate. -/
def stringBody (acc : List Char) : List Char → Except ParseError (String × List Char)
  | [] => .error .endOfInput
  | '"' :: rest => .ok (String.ofList acc.reverse, rest)
  | '\\' :: '"' :: rest => stringBody ('"' :: acc) rest
  | '\\' :: '\\' :: rest => stringBody ('\\' :: acc) rest
  | '\\' :: '/' :: rest => stringBody ('/' :: acc) rest
  | '\\' :: 'b' :: rest => stringBody ('\x08' :: acc) rest
  | '\\' :: 'f' :: rest => stringBody ('\x0c' :: acc) rest
  | '\\' :: 'n' :: rest => stringBody ('\n' :: acc) rest
  | '\\' :: 'r' :: rest => stringBody ('\r' :: acc) rest
  | '\\' :: 't' :: rest => stringBody ('\t' :: acc) rest
  | '\\' :: 'u' :: a :: b :: c :: d :: rest =>
    match hex4? a b c d with
    | none => .error .badEscape
    | some v =>
      if 0xDC00 ≤ v && v < 0xE000 then .error .badEscape
      else if 0xD800 ≤ v && v < 0xDC00 then
        match rest with
        | '\\' :: 'u' :: e :: f :: g :: h :: rest =>
          match hex4? e f g h with
          | some lo =>
            if 0xDC00 ≤ lo && lo < 0xE000 then
              stringBody (Char.ofNat (0x10000 + (v - 0xD800) * 0x400 + (lo - 0xDC00)) :: acc) rest
            else .error .badEscape
          | none => .error .badEscape
        | _ => .error .badEscape
      else stringBody (Char.ofNat v :: acc) rest
  | '\\' :: _ => .error .badEscape
  | c :: rest => if c.toNat < 0x20 then .error .controlCharacter else stringBody (c :: acc) rest

def digitsValue (ds : List Char) : Nat := ds.foldl (fun n c => 10 * n + (c.toNat - '0'.toNat)) 0

def u64Limit : Nat := Nat.pow 2 64

/-- The float nearest `mantissa * 10 ^ e`. Far outside the range of floats the answer is
infinity or zero, given without computing the power. -/
def scaledFloat (mantissa : Nat) (e : Int) : Float :=
  let lead := e + (toString mantissa).length
  if mantissa == 0 then 0.0
  else if lead > 400 then 1.0 / 0.0
  else if lead < -400 then 0.0
  else if e < 0 then Float.ofScientific mantissa true (-e).toNat
  else Float.ofScientific mantissa false e.toNat

/-- A number at the start of the text: `-? (0 | [1-9][0-9]*) (. [0-9]+)? ([eE] [+-]? [0-9]+)?`. -/
def readNumber (cs : List Char) : Except ParseError (Json × List Char) :=
  let (negative, cs) := match cs with
    | '-' :: r => (true, r)
    | _ => (false, cs)
  let whole := cs.takeWhile Char.isDigit
  let cs := cs.dropWhile Char.isDigit
  if whole.isEmpty || (whole.length > 1 && whole.head? == some '0') then .error .badNumber
  else
    let (frac, cs, hasFrac) := match cs with
      | '.' :: r => (r.takeWhile Char.isDigit, r.dropWhile Char.isDigit, true)
      | _ => ([], cs, false)
    if hasFrac && frac.isEmpty then .error .badNumber
    else
      let (expNeg, expDigits, cs, hasExp) := match cs with
        | 'e' :: r | 'E' :: r =>
          let (en, r) := match r with
            | '+' :: r' => (false, r')
            | '-' :: r' => (true, r')
            | _ => (false, r)
          (en, r.takeWhile Char.isDigit, r.dropWhile Char.isDigit, true)
        | _ => (false, [], cs, false)
      if hasExp && expDigits.isEmpty then .error .badNumber
      else if !hasFrac && !hasExp then
        let n := digitsValue whole
        if !negative then
          if n < u64Limit then .ok (.int n, cs) else .ok (.float (Float.ofNat n), cs)
        else if n == 0 then .ok (.float (-0.0), cs)
        else if n ≤ Nat.pow 2 63 then .ok (.int (-(n : Int)), cs)
        else .ok (.float (-(Float.ofNat n)), cs)
      else
        let mantissa := digitsValue (whole ++ frac)
        let e : Int := (if expNeg then -(digitsValue expDigits : Int) else digitsValue expDigits)
          - frac.length
        let magnitude := scaledFloat mantissa e
        if magnitude.isInf then .error .outOfRange
        else .ok (.float (if negative then -magnitude else magnitude), cs)

mutual
/-- One value after optional blanks; `depth` bounds the nesting still allowed. -/
def readValue : Nat → List Char → Except ParseError (Json × List Char)
  | 0, _ => .error .tooDeep
  | depth + 1, cs =>
    match skipBlanks cs with
    | [] => .error .endOfInput
    | 'n' :: 'u' :: 'l' :: 'l' :: rest => .ok (.null, rest)
    | 't' :: 'r' :: 'u' :: 'e' :: rest => .ok (.bool true, rest)
    | 'f' :: 'a' :: 'l' :: 's' :: 'e' :: rest => .ok (.bool false, rest)
    | '"' :: rest => do
      let (s, rest) ← stringBody [] rest
      .ok (.str s, rest)
    | '[' :: rest =>
      match skipBlanks rest with
      | ']' :: rest => .ok (.arr [], rest)
      | rest => readItems depth rest.length rest []
    | '{' :: rest =>
      match skipBlanks rest with
      | '}' :: rest => .ok (.obj [], rest)
      | rest => readFields depth rest.length rest []
    | c :: rest =>
      if c == '-' || c.isDigit then readNumber (c :: rest) else .error (.unexpected c)
  termination_by depth _ => (depth, 0)

/-- Array items after `[`, newest first in `acc`; `fuel` bounds their number. -/
def readItems : Nat → Nat → List Char → List Json → Except ParseError (Json × List Char)
  | _, 0, _, _ => .error .endOfInput
  | depth, fuel + 1, cs, acc => do
    let (v, rest) ← readValue depth cs
    match skipBlanks rest with
    | ',' :: rest => readItems depth fuel rest (v :: acc)
    | ']' :: rest => .ok (.arr (v :: acc).reverse, rest)
    | c :: _ => .error (.unexpected c)
    | [] => .error .endOfInput
  termination_by depth fuel _ _ => (depth, fuel + 1)

/-- Object members after `{`, newest first in `acc`; `fuel` bounds their number. -/
def readFields : Nat → Nat → List Char → List (String × Json) →
    Except ParseError (Json × List Char)
  | _, 0, _, _ => .error .endOfInput
  | depth, fuel + 1, cs, acc =>
    match skipBlanks cs with
    | '"' :: rest => do
      let (key, rest) ← stringBody [] rest
      match skipBlanks rest with
      | ':' :: rest => do
        let (v, rest) ← readValue depth rest
        match skipBlanks rest with
        | ',' :: rest => readFields depth fuel rest ((key, v) :: acc)
        | '}' :: rest => .ok (.obj ((key, v) :: acc).reverse, rest)
        | c :: _ => .error (.unexpected c)
        | [] => .error .endOfInput
      | c :: _ => .error (.unexpected c)
      | [] => .error .endOfInput
    | c :: _ => .error (.unexpected c)
    | [] => .error .endOfInput
  termination_by depth fuel _ _ => (depth, fuel + 1)
end

/-- Reads a whole document: one value, then only blanks. -/
def parse (text : String) : Except ParseError Json := do
  let (v, rest) ← readValue 128 text.toList
  if (skipBlanks rest).isEmpty then .ok v else .error .trailing

end LintWatch.Json
