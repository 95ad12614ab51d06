import Chip8.Speed.Basic

/-!
# Speeds from floating-point numbers

A number is approximated by its nearest thousandth: it is multiplied by one
thousand in floating point, and the product is rounded to a whole number, a
half going away from zero.
-/

namespace Chip8.Speed

/-- The denominator, before reduction, of an approximated speed. -/
def thousand : Nat :=
  1000

/-- The speed nearest to a number, in thousandths. -/
def ofBinary64 (value : Binary64) : Except SpeedError Speed :=
  if !value.isFinite then
    .error .notFinite
  else if value.isNegative || value.isZero then
    .error .notPositive
  else
    let scaled := value.scale thousand
    if !scaled.isFinite then
      .error (.outOfRange value)
    else if scaled.nearestWhole < 1 ∨
        greatestCount < scaled.nearestWhole then
      .error (.outOfRange value)
    else
      ofRatio (.ofNat scaled.nearestWhole) (.ofNat thousand)

end Chip8.Speed
