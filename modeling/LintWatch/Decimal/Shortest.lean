/-! Shortest decimal digits of a binary floating-point value: of the decimals that read back to
the value, one with the fewest significant digits, and of those the nearest. All arithmetic is
exact on `Nat`; the value `m · 2^e` and its rounding interval come from the bit pattern. -/
namespace LintWatch.Decimal

/-- Layout of a binary interchange format: stored fraction bits and exponent bits. -/
structure BinaryFormat where
  fractionBits : Nat
  exponentBits : Nat

/-- The 64-bit format of `Float`. -/
def BinaryFormat.double : BinaryFormat := ⟨52, 11⟩

/-- The 32-bit format of `Float32`. -/
def BinaryFormat.single : BinaryFormat := ⟨23, 8⟩

def BinaryFormat.bias (f : BinaryFormat) : Nat := Nat.pow 2 (f.exponentBits - 1) - 1

/-- A finite decimal `(-1)^negative · digits · 10^exponent`; `digits` has no trailing zero
unless it is zero itself. -/
structure Decimal where
  negative : Bool
  digits : Nat
  exponent : Int
  deriving Repr, BEq, DecidableEq

/-- What a bit pattern denotes, with finite values already in shortest decimal form. -/
inductive Shortest where
  | nan
  | infinite (negative : Bool)
  | finite (value : Decimal)
  deriving Repr, BEq, DecidableEq

/-- The number of decimal digits of a positive number (and 1 for zero). -/
def digitCount (n : Nat) : Nat := (Nat.toDigits 10 n).length

/-- `n · 2^twos · 10^tens` as a fraction numerator over denominator, both natural numbers. -/
def fraction (n : Nat) (twos tens : Int) : Nat × Nat :=
  (n * Nat.pow 2 twos.toNat * Nat.pow 10 tens.toNat, Nat.pow 2 (-twos).toNat * Nat.pow 10 (-tens).toNat)

/-- Exact comparison of `a · 2^a2 · 10^a10` with `b · 2^b2 · 10^b10`. -/
def compareScaled (a : Nat) (a2 a10 : Int) (b : Nat) (b2 b10 : Int) : Ordering :=
  let (an, ad) := fraction a a2 a10
  let (bn, bd) := fraction b b2 b10
  compare (an * bd) (bn * ad)

/-- The exponent of the leading decimal digit of `m · 2^e`, for `m > 0`. -/
def leadingExponent (m : Nat) (e : Int) : Int :=
  if 0 ≤ e then (digitCount (m * Nat.pow 2 e.toNat) : Int) - 1
  else (digitCount (m * Nat.pow 5 (-e).toNat) : Int) - 1 - (-e)

/-- Whether `c · 10^p` lies in the rounding interval of `m · 2^e`: the values within half a
gap of it, with the ends included iff `m` is even. `narrowBelow` marks a value whose gap
below is half its gap above (the least significand of a binade). -/
def inInterval (m : Nat) (e : Int) (narrowBelow : Bool) (c : Nat) (p : Int) : Bool :=
  let inclusive := m % 2 == 0
  let low := 4 * m - (if narrowBelow then 1 else 2)
  let high := 4 * m + 2
  let aboveLow := match compareScaled c 0 p low (e - 2) 0 with
    | .gt => true
    | .eq => inclusive
    | .lt => false
  let belowHigh := match compareScaled c 0 p high (e - 2) 0 with
    | .lt => true
    | .eq => inclusive
    | .gt => false
  aboveLow && belowHigh

/-- Removes trailing zeros of the digits, raising the exponent to match. -/
def trimZeros (digits : Nat) (exponent : Int) : (fuel : Nat) → Nat × Int
  | 0 => (digits, exponent)
  | fuel + 1 =>
    if digits != 0 && digits % 10 == 0 then trimZeros (digits / 10) (exponent + 1) fuel
    else (digits, exponent)

/-- The grid search: for `n = 1, 2, …` significant digits, the two neighbours of the value on
the grid `10^(lead - n + 1)`; the first grid with a neighbour in the interval gives the
answer, and of two neighbours in it the nearer (an exact tie takes the even one). -/
def searchDigits (m : Nat) (e : Int) (narrowBelow : Bool) (lead : Int) (n : Nat) :
    (fuel : Nat) → Nat × Int
  | 0 => (m * Nat.pow 2 e.toNat, -((-e).toNat : Int))
  | fuel + 1 =>
    let p := lead - n + 1
    let (num, den) := fraction m e (-p)
    let down := num / den
    let up := down + 1
    let downIn := inInterval m e narrowBelow down p
    let upIn := inInterval m e narrowBelow up p
    if downIn && upIn then
      -- the nearer of the two: compare 2·value with (2·down + 1)·10^p
      match compareScaled (2 * m) e 0 (2 * down + 1) 0 p with
      | .lt => (down, p)
      | .gt => (up, p)
      | .eq => if down % 2 == 0 then (down, p) else (up, p)
    else if downIn then (down, p)
    else if upIn then (up, p)
    else searchDigits m e narrowBelow lead (n + 1) fuel

/-- Shortest digits and exponent of a positive value `m · 2^e`. -/
def shortestOf (m : Nat) (e : Int) (narrowBelow : Bool) : Nat × Int :=
  let (digits, exponent) := searchDigits m e narrowBelow (leadingExponent m e) 1 40
  trimZeros digits exponent (digitCount digits)

/-- Decodes a bit pattern of the format and finds its shortest decimal. -/
def BinaryFormat.shortest (f : BinaryFormat) (bits : Nat) : Shortest :=
  let fraction := bits % Nat.pow 2 f.fractionBits
  let biased := bits / Nat.pow 2 f.fractionBits % Nat.pow 2 f.exponentBits
  let negative := bits / Nat.pow 2 (f.fractionBits + f.exponentBits) % 2 == 1
  if biased == Nat.pow 2 f.exponentBits - 1 then
    if fraction == 0 then .infinite negative else .nan
  else if biased == 0 && fraction == 0 then
    .finite ⟨negative, 0, 0⟩
  else
    let (m, e) : Nat × Int :=
      if biased == 0 then (fraction, 1 - (f.bias : Int) - f.fractionBits)
      else (fraction + Nat.pow 2 f.fractionBits, (biased : Int) - f.bias - f.fractionBits)
    let narrowBelow := fraction == 0 && biased > 1
    let (digits, exponent) := shortestOf m e narrowBelow
    .finite ⟨negative, digits, exponent⟩

/-- Shortest decimal of a `Float`. -/
def ofFloat (x : Float) : Shortest := BinaryFormat.double.shortest x.toBits.toNat

/-- Shortest decimal of a `Float32`. -/
def ofFloat32 (x : Float32) : Shortest := BinaryFormat.single.shortest x.toBits.toNat

end LintWatch.Decimal
