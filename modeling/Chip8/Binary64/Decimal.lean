import Chip8.Binary64.Basic

/-!
# Reading decimal numerals

A decimal numeral is digits with an optional point among or beside them, an
optional sign in front and an optional exponent behind; the words for infinity
and for no number stand beside numerals.  A numeral is read as the number
nearest to its exact value.
-/

namespace Chip8.Binary64

/-! ## Values -/

/--
The number nearest to `coefficient * 10 ^ exponent`.

A value of more than 310 digits before the point is beyond the greatest
finite number, and one that starts more than 330 places behind it is below
half of the smallest, so neither needs its power of ten written out.
-/
def ofDecimal (coefficient : Nat) (exponent : Int) : Binary64 :=
  let reach : Int := (Nat.toDigits 10 coefficient).length + exponent
  if coefficient = 0 ∨ reach < -330 then
    ofCode false 0
  else if 310 < reach then
    infinity false
  else if 0 ≤ exponent then
    ofRatio (coefficient * Nat.pow 10 exponent.toNat) 1
  else
    ofRatio coefficient (Nat.pow 10 (-exponent).toNat)

/-- The number with a given sign in place of its own. -/
def withSign (negative : Bool) (number : Binary64) : Binary64 :=
  ofCode negative number.code

/-! ## Numerals -/

/-- Take an optional sign off a text; the flag tells a minus. -/
def takeSign : List Char → Bool × List Char
  | '-' :: rest => (true, rest)
  | '+' :: rest => (false, rest)
  | text => (false, text)

/-- The value of a text that is one or more digits. -/
def digits? (text : List Char) : Option Nat :=
  if text.isEmpty || !text.all Char.isDigit then
    none
  else
    some (Nat.ofDigitChars 10 text 0)

/-- The exponent written behind a numeral; none at all stands for zero. -/
def exponent? : List Char → Option Int
  | [] => some 0
  | mark :: rest =>
      if mark = 'e' ∨ mark = 'E' then
        let (negative, digits) := takeSign rest
        (digits? digits).map fun (value : Nat) =>
          if negative then -(value : Int) else value
      else
        none

/-- Digits behind a point, and what follows them. -/
def takeFraction : List Char → List Char × List Char
  | '.' :: rest => (rest.takeWhile Char.isDigit, rest.dropWhile Char.isDigit)
  | text => ([], text)

/-- Coefficient and exponent of a numeral without a sign. -/
def coefficient? (text : List Char) : Option (Nat × Int) :=
  let whole := text.takeWhile Char.isDigit
  let (fraction, rest) := takeFraction (text.dropWhile Char.isDigit)
  if whole.isEmpty && fraction.isEmpty then
    none
  else
    (exponent? rest).map fun exponent =>
      (Nat.ofDigitChars 10 (whole ++ fraction) 0,
        exponent - fraction.length)

/-- The words for infinity and for no number, in either case of letters. -/
def word? (text : List Char) : Option Binary64 :=
  match String.ofList (text.map Char.toLower) with
  | "inf" => some (infinity false)
  | "infinity" => some (infinity false)
  | "nan" => some nan
  | _ => none

/--
The number that a text denotes: a decimal numeral or one of the words, with an
optional sign in front.
-/
def ofText? (text : List Char) : Option Binary64 :=
  let (negative, rest) := takeSign text
  let magnitude? : Option Binary64 :=
    match coefficient? rest with
    | some (coefficient, exponent) => some (ofDecimal coefficient exponent)
    | none => word? rest
  magnitude?.map (withSign negative)

end Chip8.Binary64
