import Chip8.Rounding

/-!
# Binary floating-point numbers of sixty-four bits

A number is its bits: a sign, eleven bits of exponent and fifty-two bits of
fraction.  The bits below the sign, read as one natural number, are its
`code`; codes grow with the magnitude, up to the code of infinity.

Every finite number is a whole multiple of the smallest positive one, which
is `2 ^ (-1074)`.  Counted in that unit a magnitude is a natural number, so
rounding, products and comparisons are exact arithmetic on `Nat`.
-/

namespace Chip8

/-- A binary floating-point number, given by its bits. -/
structure Binary64 where
  bits : UInt64
deriving DecidableEq, Repr, Inhabited

namespace Binary64

/-! ## Codes -/

/-- Number of fractions that share an exponent: they have 52 bits. -/
def fractionCount : Nat :=
  4503599627370496

/-- The first bit pattern that carries a minus sign: it has bit 63 alone. -/
def signPlace : Nat :=
  9223372036854775808

/-- The code of infinity; greater codes are no numbers. -/
def infinityCode : Nat :=
  2047 * fractionCount

/-- The bits below the sign, as a natural number. -/
def code (number : Binary64) : Nat :=
  number.bits.toNat % signPlace

/-- Whether the sign is a minus; zero can carry one too. -/
def isNegative (number : Binary64) : Bool :=
  signPlace ≤ number.bits.toNat

/-- Whether the number is neither infinite nor no number at all. -/
def isFinite (number : Binary64) : Bool :=
  number.code < infinityCode

/-- Whether the bits stand for no number. -/
def isNaN (number : Binary64) : Bool :=
  infinityCode < number.code

/-- Whether the number is one of the two zeros. -/
def isZero (number : Binary64) : Bool :=
  number.code = 0

/-- The number with a given sign and code. -/
def ofCode (negative : Bool) (code : Nat) : Binary64 :=
  ⟨UInt64.ofNat ((if negative then signPlace else 0) + code)⟩

/-- The infinite number with a given sign. -/
def infinity (negative : Bool) : Binary64 :=
  ofCode negative infinityCode

/-- A pattern that stands for no number. -/
def nan : Binary64 :=
  ofCode false (infinityCode + fractionCount / 2)

theorem code_ofCode (negative : Bool) (code : Nat)
    (small : code < signPlace) : (ofCode negative code).code = code := by
  cases negative <;> simp [ofCode, Binary64.code, signPlace] at * <;> omega

theorem isNegative_ofCode (negative : Bool) (code : Nat)
    (small : code < signPlace) :
    (ofCode negative code).isNegative = negative := by
  cases negative <;> simp [ofCode, isNegative, signPlace] at * <;> omega

/-! ## Magnitudes -/

/-- How many of the smallest positive number make up one. -/
def unitsPerOne : Nat :=
  Nat.pow 2 1074

/--
The magnitude with a given code, in units of the smallest positive number.
Below the first full binade a code counts units; from there on the exponent
doubles the spacing and the fraction has a hidden leading bit.
-/
def unitsOfCode (code : Nat) : Nat :=
  if code < fractionCount then
    code
  else
    (code % fractionCount + fractionCount) *
      Nat.pow 2 (code / fractionCount - 1)

/-- The magnitude of a number in units of the smallest positive one. -/
def units (number : Binary64) : Nat :=
  unitsOfCode number.code

/-- The whole number nearest to a magnitude; a half goes away from zero. -/
def nearestWhole (number : Binary64) : Nat :=
  roundHalfUp number.units unitsPerOne

/-- The whole number that a finite magnitude equals, if it equals one. -/
def whole? (number : Binary64) : Option Nat :=
  if number.isFinite && number.units % unitsPerOne = 0 then
    some (number.units / unitsPerOne)
  else
    none

/-! ## Rounding to the nearest number -/

/--
The code nearest to a quotient of units, half way going to the even code.

The quotient is measured in the spacing of its binade, which leaves
fifty-three bits before the point.  A mantissa that rounds up to the next
power of two carries into the exponent, and a quotient beyond the greatest
finite number ends at infinity.
-/
def nearestCode (numerator denominator : Nat) : Nat :=
  let exponent := (numerator / denominator).log2 - 52
  min infinityCode
    (exponent * fractionCount +
      roundHalfEven numerator (denominator * Nat.pow 2 exponent))

/-- The number nearest to a quotient of natural numbers. -/
def ofRatio (numerator denominator : Nat) : Binary64 :=
  ofCode false (nearestCode (numerator * unitsPerOne) denominator)

/-- The number nearest to a whole multiple of a finite number. -/
def scale (factor : Nat) (number : Binary64) : Binary64 :=
  ofCode number.isNegative (nearestCode (number.units * factor) 1)

end Binary64

end Chip8
