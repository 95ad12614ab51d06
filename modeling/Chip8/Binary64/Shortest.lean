import Chip8.Binary64.Basic
import Chip8.Text.Numeral

/-!
# Shortest decimal texts

A finite number is written with the fewest digits that read back as it, and
among those with the digits nearest to it; when two are equally near, with the
greater.  The text is positional: it has no exponent, and no point unless
digits follow it.

The numbers that read back as a given one lie between the two points half way
to its neighbours, and include these points exactly when its code is even.
On the grid of decimals with a given number of digits only the two neighbours
of the number need to be tried.
-/

namespace Chip8.Binary64

/-! ## Decimals -/

/-- The decimal `coefficient * 10 ^ exponent`. -/
structure Decimal where
  coefficient : Nat
  exponent : Int
deriving DecidableEq, Repr, Inhabited

namespace Decimal

/-- The power of ten by which a positive exponent lifts the coefficient. -/
def lift (exponent : Int) : Nat :=
  Nat.pow 10 exponent.toNat

/-- The power of ten by which a negative exponent divides. -/
def sink (exponent : Int) : Nat :=
  Nat.pow 10 (-exponent).toNat

/-- Move a last zero of the coefficient into the exponent. -/
def dropZero (decimal : Decimal) : Decimal :=
  if decimal.coefficient % 10 = 0 then
    ⟨decimal.coefficient / 10, decimal.exponent + 1⟩
  else
    decimal

/-- Digits with a point before the places that the exponent asks for. -/
def positional (decimal : Decimal) : String :=
  let digits := Nat.toDigits 10 decimal.coefficient
  if 0 ≤ decimal.exponent then
    String.ofList (digits ++ List.replicate decimal.exponent.toNat '0')
  else
    let places := (-decimal.exponent).toNat
    let padded := digits.leftpad (places + 1) '0'
    let point := padded.length - places
    String.ofList (padded.take point ++ '.' :: padded.drop point)

end Decimal

/-! ## The interval of a number -/

/--
The decimals that read back as one number.  The ends and the number itself are
counted in halves of the unit, so that all three are whole.
-/
structure Interval where
  low : Nat
  middle : Nat
  high : Nat
  closed : Bool
deriving DecidableEq, Repr

namespace Interval

/-- The interval of the positive finite number with a given code. -/
def ofCode (code : Nat) : Interval where
  low := unitsOfCode (code - 1) + unitsOfCode code
  middle := 2 * unitsOfCode code
  high := unitsOfCode code + unitsOfCode (code + 1)
  closed := code % 2 = 0

/-- A decimal in halves of the unit, times `Decimal.sink` of its exponent. -/
def measure (decimal : Decimal) : Nat :=
  decimal.coefficient * Decimal.lift decimal.exponent *
    (2 * unitsPerOne)

/-- Whether a decimal reads back as the number of the interval. -/
def contains (interval : Interval) (decimal : Decimal) : Bool :=
  let point := measure decimal
  let scale := Decimal.sink decimal.exponent
  if interval.closed then
    interval.low * scale ≤ point && point ≤ interval.high * scale
  else
    interval.low * scale < point && point < interval.high * scale

/-- The greatest decimal with a given exponent that is not above the number. -/
def below (interval : Interval) (exponent : Int) : Decimal :=
  ⟨interval.middle * Decimal.sink exponent /
      (Decimal.lift exponent * (2 * unitsPerOne)),
    exponent⟩

/-- The next decimal on the same grid. -/
def above (interval : Interval) (exponent : Int) : Decimal :=
  let floor := interval.below exponent
  ⟨floor.coefficient + 1, exponent⟩

/-- Whether the number is nearer to its lower neighbour on a grid. -/
def leansDown (interval : Interval) (exponent : Int) : Bool :=
  2 * (interval.middle * Decimal.sink exponent) <
    measure (interval.below exponent) +
      measure (interval.above exponent)

/-- The nearer neighbour on a grid that reads back, if one does. -/
def onGrid? (interval : Interval) (exponent : Int) : Option Decimal :=
  let floor := interval.below exponent
  let ceiling := interval.above exponent
  match interval.contains floor, interval.contains ceiling with
  | true, true =>
      some (if interval.leansDown exponent then floor else ceiling)
  | true, false => some floor
  | false, true => some ceiling
  | false, false => none

/--
The count of digits before the point, counted negatively from the point when
the number is below a tenth.  No positive number is below `10 ^ (-324)`.
-/
def leadingPlace (interval : Interval) : Int :=
  let lifted := interval.middle * Nat.pow 10 324 / (2 * unitsPerOne)
  (Nat.toDigits 10 lifted).length - 324

/-- Seventeen digits tell any two numbers apart. -/
def digitCounts : List Nat :=
  List.range' 1 17

/--
The first grid with a hit gives the shortest decimal.  Only on the grid of one
digit can it end in zero, when the neighbour is ten.
-/
def shortest (interval : Interval) : Decimal :=
  let place := interval.leadingPlace
  ((digitCounts.findSome? fun (count : Nat) =>
      interval.onGrid? (place - count)).getD
    (interval.below (place - 17))).dropZero

end Interval

/-! ## Texts -/

/-- The shortest decimal that reads back as a positive finite number. -/
def shortest (number : Binary64) : Decimal :=
  (Interval.ofCode number.code).shortest

/-- The text of a number without its sign. -/
def magnitudeText (number : Binary64) : String :=
  if number.isNaN then
    "NaN"
  else if !number.isFinite then
    "Infinity"
  else if number.isZero then
    "0"
  else
    number.shortest.positional

/-- The text of a number; a minus sign stands before any but a NaN. -/
def text (number : Binary64) : String :=
  if number.isNegative && !number.isNaN then
    "-" ++ number.magnitudeText
  else
    number.magnitudeText

end Chip8.Binary64
