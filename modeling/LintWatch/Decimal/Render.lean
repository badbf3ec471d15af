import LintWatch.Decimal.Shortest

/-! Text of shortest decimals. A `Notation` fixes where positional notation gives way to an
exponent and how many fraction digits are always written; the three notations below are the
number formats this library writes. -/
namespace LintWatch.Decimal

/-- Positional notation is used while the exponent of the leading digit lies in
`[positionalFrom, positionalBelow)`; it always shows at least `minFraction` fraction digits. -/
structure Notation where
  positionalFrom : Int
  positionalBelow : Int
  minFraction : Nat

/-- Numbers in JSON documents: positional for leading exponents `-5` to `15`, always with a
fraction (`100.0`), otherwise `1e21` or `1.5e-7`. -/
def Notation.json : Notation := ⟨-5, 16, 1⟩

/-- Diagnostic text of a float: positional for `1e-4 ≤ |x| < 1e16`, always with a fraction. -/
def Notation.debug : Notation := ⟨-4, 16, 1⟩

/-- Plain text of a float: always positional, integral values without a fraction. -/
def Notation.plain : Notation := ⟨-100000, 100000, 0⟩

def zeros (n : Nat) : String := String.ofList (List.replicate n '0')

/-- Positional text of the magnitude, with at least `minFraction` fraction digits. -/
def Decimal.positional (d : Decimal) (minFraction : Nat) : String :=
  let s := toString d.digits
  let (whole, frac) :=
    if 0 ≤ d.exponent then (s ++ zeros d.exponent.toNat, "")
    else
      let point := (s.length : Int) + d.exponent
      if 0 < point then
        (String.ofList (s.toList.take point.toNat), String.ofList (s.toList.drop point.toNat))
      else ("0", zeros (-point).toNat ++ s)
  let frac := frac ++ zeros (minFraction - frac.length)
  if frac.isEmpty then whole else whole ++ "." ++ frac

/-- The exponent of the leading digit. -/
def Decimal.leading (d : Decimal) : Int := (toString d.digits).length + d.exponent - 1

/-- Exponent text of the magnitude: `1e30`, `1.234e-7`. -/
def Decimal.scientific (d : Decimal) : String :=
  let s := (toString d.digits).toList
  let mantissa := match s with
    | [] => "0"
    | [c] => String.singleton c
    | c :: rest => String.singleton c ++ "." ++ String.ofList rest
  mantissa ++ "e" ++ toString d.leading

/-- The decimal in the given notation, with a leading `-` for negative values. -/
def Decimal.render (d : Decimal) (n : Notation) : String :=
  let body :=
    if d.digits == 0 then d.positional n.minFraction
    else if n.positionalFrom ≤ d.leading && d.leading < n.positionalBelow then
      d.positional n.minFraction
    else d.scientific
  if d.negative then "-" ++ body else body

/-- Text of a finite value in a notation; `none` for NaN and the infinities. -/
def Shortest.finiteText? (s : Shortest) (n : Notation) : Option String :=
  match s with
  | .finite d => some (d.render n)
  | _ => none

/-- Text of any value; non-finite values are written `NaN`, `inf` and `-inf`. -/
def Shortest.text (s : Shortest) (n : Notation) : String :=
  match s with
  | .nan => "NaN"
  | .infinite negative => if negative then "-inf" else "inf"
  | .finite d => d.render n

/-- JSON number text of a finite float. -/
def jsonText? (x : Float) : Option String := (ofFloat x).finiteText? .json

/-- Diagnostic text of a single-precision value. -/
def debugText32 (x : Float32) : String := (ofFloat32 x).text .debug

/-- Diagnostic text of a double-precision value. -/
def debugText (x : Float) : String := (ofFloat x).text .debug

/-- Plain positional text of a double-precision value. -/
def plainText (x : Float) : String := (ofFloat x).text .plain

end LintWatch.Decimal
