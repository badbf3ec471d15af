import LintWatch.Json.Value

/-! Reading typed values out of documents, strictly: an unsigned field takes only a whole
number in range, a float takes any number, a string only a string, and `null` is a value
only for optional fields. A record with defaults takes its default for each missing member
and passes over members it does not know. A failure names what was expected. -/
namespace LintWatch.Json

/-- A value read from a document, or what the document lacked. -/
abbrev Shaped := Except String

def expected (what : String) : Shaped α := .error ("expected " ++ what)

/-- A whole number below `2 ^ bits`. -/
def readUnsigned (bits : Nat) : Json → Shaped Nat
  | .int i => if 0 ≤ i && i.toNat < Nat.pow 2 bits then .ok i.toNat else expected s!"u{bits}"
  | _ => expected s!"u{bits}"

def readU64 : Json → Shaped Nat := readUnsigned 64

def readU32 : Json → Shaped Nat := readUnsigned 32

/-- The binary64 value of a whole number, rounded to nearest. -/
def intToFloat (i : Int) : Float :=
  if 0 ≤ i then Float.ofNat i.toNat else -(Float.ofNat i.natAbs)

def readF64 : Json → Shaped Float
  | .int i => .ok (intToFloat i)
  | .float x => .ok x
  | _ => expected "f64"

/-- A single-precision number: a whole number is rounded to it directly, a float is
narrowed from double precision. -/
def readF32 : Json → Shaped Float32
  | .int i => .ok (if 0 ≤ i then Float32.ofNat i.toNat else -(Float32.ofNat i.natAbs))
  | .float x => .ok x.toFloat32
  | _ => expected "f32"

def readString : Json → Shaped String
  | .str s => .ok s
  | _ => expected "a string"

def readBool : Json → Shaped Bool
  | .bool b => .ok b
  | _ => expected "a boolean"

def readList (read : Json → Shaped α) : Json → Shaped (List α)
  | .arr xs => xs.mapM read
  | _ => expected "a sequence"

/-- An optional value: `null` is none. -/
def readOption (read : Json → Shaped α) : Json → Shaped (Option α)
  | .null => .ok none
  | j => some <$> read j

/-- The members of an object. -/
def readObject : Json → Shaped (List (String × Json))
  | .obj fields => .ok fields
  | _ => expected "a map"

/-- The member under a key, the last one written when a key repeats. -/
def lookup (fields : List (String × Json)) (key : String) : Option Json :=
  (fields.reverse.find? (·.1 == key)).map (·.2)

/-- A member read with `read`, or `default` when the member is missing. -/
def memberOr (fields : List (String × Json)) (key : String) (default : α)
    (read : Json → Shaped α) : Shaped α :=
  match lookup fields key with
  | some v => read v
  | none => .ok default

/-- A member that must be present. -/
def memberReq (fields : List (String × Json)) (key : String) (read : Json → Shaped α) :
    Shaped α :=
  match lookup fields key with
  | some v => read v
  | none => .error ("missing field " ++ key)

/-- Refuses members other than `known`. -/
def onlyKnown (fields : List (String × Json)) (known : List String) : Shaped Unit :=
  match fields.find? (fun f => !known.contains f.1) with
  | some (k, _) => .error ("unknown field " ++ k)
  | none => .ok ()

end LintWatch.Json
