import LintWatch.Json.Schema
import LintWatch.Error
import LintWatch.Change

/-! Reading the members of a request object. A request names an operation and its
arguments; a missing or ill-typed argument is refused with a message that names it. -/
namespace LintWatch.Api

/-- Why a request gets no regular answer: it is malformed (with the reason), or the
library refused it. -/
inductive Rejection where
  | badInput (message : String)
  | failed (e : Error)

/-- Decoding and answering a request. -/
abbrev Decode := Except Rejection

def bad (message : String) : Decode α := .error (.badInput message)

/-- A result of the library, its error refusing the request. -/
def lift (r : Except Error α) : Decode α := r.mapError .failed

/-- A value read from a document of the request, an unreadable one refusing it. -/
def shaped (r : Json.Shaped α) : Decode α := r.mapError fun _ => .failed .json

/-- A member that is present and not `null`. -/
def member? (j : Json) (key : String) : Option Json :=
  match j.get? key with
  | some .null => none
  | other => other

def u64Limit : Nat := Nat.pow 2 64

/-- A whole number below `2^64`. -/
def asU64? : Json → Option Nat
  | .int i => if 0 ≤ i && i.toNat < u64Limit then some i.toNat else none
  | _ => none

/-- A number, or one of the strings `NaN`, `Infinity`, `-Infinity`. -/
def asNumber? : Json → Option Float
  | .int i => some (Json.intToFloat i)
  | .float x => some x
  | .str "NaN" => some (0.0 / 0.0)
  | .str "Infinity" => some (1.0 / 0.0)
  | .str "-Infinity" => some (-1.0 / 0.0)
  | _ => none

/-- An unsigned member with a default. -/
def natOr (j : Json) (key : String) (default : Nat) : Decode Nat :=
  match member? j key with
  | none => .ok default
  | some v => match asU64? v with
    | some n => .ok n
    | none => bad s!"field {key} is not a u64"

/-- A float member with a default. -/
def floatOr (j : Json) (key : String) (default : Float) : Decode Float :=
  match member? j key with
  | none => .ok default
  | some v => match asNumber? v with
    | some x => .ok x
    | none => bad s!"field {key} is not a float"

/-- A required string member. -/
def string (j : Json) (key : String) : Decode String :=
  match member? j key with
  | some (.str s) => .ok s
  | _ => bad s!"missing string field {key}"

/-- A string member with a default. -/
def stringOr (j : Json) (key : String) (default : String) : Decode String :=
  match member? j key with
  | none => .ok default
  | some (.str s) => .ok s
  | some _ => bad s!"field {key} is not a string"

/-- A boolean member with a default. -/
def boolOr (j : Json) (key : String) (default : Bool) : Decode Bool :=
  match member? j key with
  | none => .ok default
  | some (.bool b) => .ok b
  | some _ => bad s!"field {key} is not a bool"

/-- A list member, empty when absent. -/
def listOr (j : Json) (key : String) : Decode (List Json) :=
  match member? j key with
  | none => .ok []
  | some (.arr xs) => .ok xs
  | some _ => bad s!"field {key} is not a list"

/-- A settings section of the request, or its defaults when absent. -/
def sectionOr (j : Json) (key : String) (default : α) (read : Json → Json.Shaped α) :
    Decode α :=
  match member? j key with
  | none => .ok default
  | some v => shaped (read v)

/-- The change kind of an item, `Modified` when absent. -/
def kindOr (j : Json) : Decode ChangeKind :=
  match member? j "kind" with
  | none => .ok .modified
  | some (.str s) => match ChangeKind.ofLabel? s with
    | some k => .ok k
    | none => bad s!"unknown change kind {s}"
  | some _ => bad "field kind is not a string"

def hexDigit? (c : Char) : Option Nat :=
  if '0' ≤ c && c ≤ '9' then some (c.toNat - '0'.toNat)
  else if 'a' ≤ c && c ≤ 'f' then some (c.toNat - 'a'.toNat + 10)
  else if 'A' ≤ c && c ≤ 'F' then some (c.toNat - 'A'.toNat + 10)
  else none

/-- Bytes written as pairs of hexadecimal digits. -/
def hexBytes (text : String) : Decode ByteArray :=
  let rec go (acc : ByteArray) : List Char → Decode ByteArray
    | [] => .ok acc
    | a :: b :: rest =>
      match hexDigit? a, hexDigit? b with
      | some x, some y => go (acc.push (UInt8.ofNat (16 * x + y))) rest
      | _, _ => bad "bad hex digit"
    | [_] => bad "odd hex length"
  if text.length % 2 == 1 then bad "odd hex length" else go .empty text.toList

/-- A field of a result object. -/
abbrev Field := String × Json

def answerError (kind : String) (message : Option String) : Json :=
  match message with
  | some m => .obj [("error", .str kind), ("message", .str m)]
  | none => .obj [("error", .str kind)]

/-- The answer that stands for a rejection. -/
def Rejection.answer : Rejection → Json
  | .badInput m => answerError "BadInput" (some m)
  | .failed e => answerError e.kind e.message?

/-- A float answer: finite values as numbers, the others as `NaN`, `Infinity`, `-Infinity`. -/
def floatAnswer (x : Float) : Json :=
  if x.isNaN then .str "NaN"
  else if x.isInf then .str (if x < 0 then "-Infinity" else "Infinity")
  else .float x

end LintWatch.Api
