/-!
# Rounding of quotients

Two ways to round a quotient of natural numbers to a whole number.  Both give
one of the two neighbours; they differ only where the quotient lies half way
between them.
-/

namespace Chip8

/-- The nearest whole number; half way goes to the even neighbour. -/
def roundHalfEven (numerator denominator : Nat) : Nat :=
  let quotient := numerator / denominator
  let remainder := numerator % denominator
  if 2 * remainder < denominator then
    quotient
  else if denominator < 2 * remainder then
    quotient + 1
  else
    quotient + quotient % 2

/-- The nearest whole number; half way goes to the greater neighbour. -/
def roundHalfUp (numerator denominator : Nat) : Nat :=
  (2 * numerator + denominator) / (2 * denominator)

end Chip8
