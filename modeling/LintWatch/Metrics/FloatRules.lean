/-! The float operations the scores are computed with. The larger and smaller of two floats
pass over a NaN and answer the other operand; clamping keeps a NaN; conversion to a 32-bit
count rounds toward zero, stops at the ends of the range, and takes NaN to zero. -/
namespace LintWatch.Metrics

/-- The larger of two floats; a NaN operand is passed over. -/
def fmax (a b : Float) : Float :=
  if a.isNaN then b else if b.isNaN then a else if a < b then b else a

/-- The smaller of two floats; a NaN operand is passed over. -/
def fmin (a b : Float) : Float :=
  if a.isNaN then b else if b.isNaN then a else if b < a then b else a

/-- `x` moved into `[lo, hi]`; a NaN stays NaN. -/
def fclamp (x lo hi : Float) : Float :=
  let x := if x < lo then lo else x
  if x > hi then hi else x

/-- The whole part of `x` as a 32-bit count: negative values and NaN give zero, values past
the range give its largest count. -/
def toCount32 (x : Float) : Nat := x.toUInt32.toNat

end LintWatch.Metrics
