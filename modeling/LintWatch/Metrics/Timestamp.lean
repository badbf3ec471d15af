/-! Moments in UTC, to the nanosecond, and their RFC 3339 text. Text is read leniently:
blanks may stand before each number, the date and time may be parted by `T`, `t` or a
blank, fractions of a second may have any number of digits (beyond nine they are cut off),
and the offset is `Z`, `UTC` or a signed `hh:mm` that is worked into the moment. Text is
written in UTC with `Z`, with 0, 3, 6 or 9 fraction digits, as few as show the value. A
leap second is kept as a second of 60. -/
namespace LintWatch.Metrics

/-- A moment in UTC. -/
structure Timestamp where
  /-- Days since 1970-01-01. -/
  days : Int
  /-- Seconds since midnight, below 86400. -/
  seconds : Nat
  /-- Nanoseconds into the second; from 10^9 on, the second is a leap second. -/
  nanos : Nat
  deriving Repr, BEq, DecidableEq, Inhabited

namespace Timestamp

/-- Days from 1970-01-01 to a date of the proleptic Gregorian calendar. -/
def daysFromCivil (year : Int) (month day : Nat) : Int :=
  let y := if month ≤ 2 then year - 1 else year
  let era := y / 400
  let yoe := (y - era * 400).toNat
  let mp := (month + 9) % 12
  let doy := (153 * mp + 2) / 5 + day - 1
  let doe := yoe * 365 + yoe / 4 - yoe / 100 + doy
  era * 146097 + doe - 719468

/-- The date of a day counted from 1970-01-01: year, month and day. -/
def civilFromDays (days : Int) : Int × Nat × Nat :=
  let z := days + 719468
  let era := z / 146097
  let doe := (z - era * 146097).toNat
  let yoe := (doe - doe / 1460 + doe / 36524 - doe / 146096) / 365
  let doy := doe - (365 * yoe + yoe / 4 - yoe / 100)
  let mp := (5 * doy + 2) / 153
  let day := doy - (153 * mp + 2) / 5 + 1
  let month := if mp < 10 then mp + 3 else mp - 9
  let year := (yoe : Int) + era * 400
  (if month ≤ 2 then year + 1 else year, month, day)

def isLeapYear (y : Int) : Bool := y % 4 == 0 && (y % 100 != 0 || y % 400 == 0)

def daysInMonth (y : Int) (m : Nat) : Nat :=
  if m == 2 then (if isLeapYear y then 29 else 28)
  else if m == 4 || m == 6 || m == 9 || m == 11 then 30 else 31

/-- The years a date may have. -/
def yearLimit : Int := 262143

/-- Blanks as Unicode counts them. -/
def isBlank (c : Char) : Bool :=
  c == ' ' || ('\t' ≤ c && c ≤ '\r') || c.toNat == 0x85 || c.toNat == 0xA0 ||
  c.toNat == 0x1680 || (0x2000 ≤ c.toNat && c.toNat ≤ 0x200A) || c.toNat == 0x2028 ||
  c.toNat == 0x2029 || c.toNat == 0x202F || c.toNat == 0x205F || c.toNat == 0x3000

def skipBlanks (cs : List Char) : List Char := cs.dropWhile isBlank

def isDigit (c : Char) : Bool := '0' ≤ c && c ≤ '9'

def digitsValue (ds : List Char) : Nat := ds.foldl (fun n c => 10 * n + (c.toNat - '0'.toNat)) 0

/-- One to `width` digits after optional blanks: their value and the text after them. -/
def number (width : Nat) (cs : List Char) : Option (Nat × List Char) :=
  let cs := skipBlanks cs
  let ds := (cs.takeWhile isDigit).take width
  if ds.isEmpty then none else some (digitsValue ds, cs.drop ds.length)

/-- A year: up to four digits, or a sign and any number of digits. -/
def year (cs : List Char) : Option (Int × List Char) :=
  match skipBlanks cs with
  | '-' :: rest => (number rest.length rest).map fun (v, r) => (-(v : Int), r)
  | '+' :: rest => (number rest.length rest).map fun (v, r) => ((v : Int), r)
  | cs => (number 4 cs).map fun (v, r) => ((v : Int), r)

/-- The text after `c`, blanks before it allowed. -/
def literal (c : Char) (cs : List Char) : Option (List Char) :=
  match skipBlanks cs with
  | d :: rest => if d == c then some rest else none
  | [] => none

/-- A fraction of a second after its point, in nanoseconds. -/
def fraction (cs : List Char) : Option (Nat × List Char) :=
  let ds := cs.takeWhile isDigit
  if ds.isEmpty then none
  else
    let kept := ds.take 9
    some (digitsValue kept * Nat.pow 10 (9 - kept.length), cs.drop ds.length)

/-- An offset from UTC in seconds: `Z`, or a sign, two digits of hours, an optional colon
or blanks, and two digits of minutes. -/
def offset (cs : List Char) : Option (Int × List Char) :=
  let signed (negative : Bool) (rest : List Char) : Option (Int × List Char) :=
    match rest with
    | h1 :: h2 :: rest =>
      if isDigit h1 && isDigit h2 then
        let rest := rest.dropWhile fun c => c == ':' || isBlank c
        match rest with
        | m1 :: m2 :: more =>
          if '0' ≤ m1 && m1 ≤ '5' && isDigit m2 then
            let s : Int := (digitsValue [h1, h2] * 60 + digitsValue [m1, m2]) * 60
            some (if negative then -s else s, more)
          else none
        | _ => none
      else none
    | _ => none
  match cs with
  | 'Z' :: rest | 'z' :: rest => some (0, rest)
  | '+' :: rest => signed false rest
  | '-' :: rest | '−' :: rest => signed true rest
  | _ => none

/-- Reads a moment. -/
def parse (text : String) : Option Timestamp := do
  let (y, cs) ← year text.toList
  let cs ← literal '-' cs
  let (mo, cs) ← number 2 cs
  let cs ← literal '-' cs
  let (d, cs) ← number 2 cs
  let cs ← match cs with
    | 'T' :: rest | 't' :: rest | ' ' :: rest => some rest
    | _ => none
  let (h, cs) ← number 2 cs
  let cs ← literal ':' cs
  let (mi, cs) ← number 2 cs
  let cs ← literal ':' cs
  let (s, cs) ← number 2 cs
  let (nanos, cs) ← match cs with
    | '.' :: rest => fraction rest
    | _ => some (0, cs)
  let cs := skipBlanks cs
  let (off, cs) ← match cs with
    | u :: t :: c :: rest =>
      if u.toLower == 'u' && t.toLower == 't' && c.toLower == 'c' then some (0, rest)
      else offset cs
    | _ => offset cs
  if !(skipBlanks cs).isEmpty then none
  if !(1 ≤ mo && mo ≤ 12 && 1 ≤ d && d ≤ daysInMonth y mo) then none
  if !(h ≤ 23 && mi ≤ 59 && s ≤ 60) then none
  if !(-yearLimit ≤ y && y ≤ yearLimit) then none
  if off.natAbs ≥ 86400 then none
  let (s, nanos) := if s == 60 then (59, nanos + 1000000000) else (s, nanos)
  let wall := daysFromCivil y mo d * 86400 + ((h * 60 + mi) * 60 + s : Nat)
  let utc := wall - off
  some ⟨utc / 86400, (utc % 86400).toNat, nanos⟩

def pad (width : Nat) (n : Nat) : String :=
  let s := toString n
  String.ofList (List.replicate (width - s.length) '0') ++ s

/-- The fraction of a second with 0, 3, 6 or 9 digits. -/
def fractionText (nanos : Nat) : String :=
  if nanos == 0 then ""
  else if nanos % 1000000 == 0 then "." ++ pad 3 (nanos / 1000000)
  else if nanos % 1000 == 0 then "." ++ pad 6 (nanos / 1000)
  else "." ++ pad 9 nanos

def yearText (y : Int) : String :=
  if 0 ≤ y && y ≤ 9999 then pad 4 y.toNat
  else (if y < 0 then "-" else "+") ++ pad 4 y.natAbs

/-- The RFC 3339 text of a moment, in UTC. -/
def render (t : Timestamp) : String :=
  let (y, mo, d) := civilFromDays t.days
  let (leap, nanos) := if t.nanos ≥ 1000000000 then (1, t.nanos - 1000000000) else (0, t.nanos)
  yearText y ++ "-" ++ pad 2 mo ++ "-" ++ pad 2 d ++ "T" ++ pad 2 (t.seconds / 3600) ++ ":" ++
    pad 2 (t.seconds / 60 % 60) ++ ":" ++ pad 2 (t.seconds % 60 + leap) ++ fractionText nanos ++ "Z"

end Timestamp

end LintWatch.Metrics
