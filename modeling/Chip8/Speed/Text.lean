import Chip8.Binary64.Decimal
import Chip8.Speed.Approximation
import Chip8.Text.Blank

/-!
# Texts of speeds

A speed is written as a whole number, as a decimal when its expansion ends,
and as a fraction otherwise, with `x` behind it.  It is read from any of these
forms, with or without the `x`, and with blanks around the parts.
-/

namespace Chip8.Speed

/-! ## Decimals that end -/

/-- Divide by a factor as long as it divides; zero is left alone. -/
def withoutFactor (factor value : Nat) : Nat :=
  if _ : 1 < factor ∧ 0 < value ∧ value % factor = 0 then
    withoutFactor factor (value / factor)
  else
    value
termination_by value
decreasing_by
  rename_i divides
  exact Nat.div_lt_self divides.2.1 divides.1

/-- Whether fractions with a denominator have decimal expansions that end. -/
def endsInDecimal (denominator : Nat) : Bool :=
  withoutFactor 5 (withoutFactor 2 denominator) = 1

/-! ## Writing -/

/-- The text of a speed: a whole number, a decimal that ends, or a fraction. -/
def text (speed : Speed) : String :=
  if speed.denominator = 1 then
    Numeral.decimal speed.numerator ++ "x"
  else if endsInDecimal speed.denominator then
    speed.toBinary64.text ++ "x"
  else
    Numeral.decimal speed.numerator ++ "/" ++
      Numeral.decimal speed.denominator ++ "x"

/-! ## Reading -/

/-- A text without an `x`, in either case, at its end. -/
def dropMark (text : List Char) : List Char :=
  match text.getLast? with
  | some 'x' => text.dropLast
  | some 'X' => text.dropLast
  | _ => text

/-- The part of a text that carries the number. -/
def core (text : List Char) : List Char :=
  Text.trim (dropMark (Text.trim text))

/-- A whole number of thirty-two bits, with an optional plus in front. -/
def part? (text : List Char) : Option UInt32 :=
  let digits :=
    match text with
    | '+' :: rest => rest
    | _ => text
  match Binary64.digits? digits with
  | some value =>
      if value ≤ greatestCount then some (.ofNat value) else none
  | none => none

/-- The parts on both sides of the first slash, if there is one. -/
def splitSlash? (text : List Char) : Option (List Char × List Char) :=
  match text.dropWhile (· != '/') with
  | _ :: rest => some (text.takeWhile (· != '/'), rest)
  | [] => none

/-- Read a speed; an error of form carries the whole text. -/
def ofText (text : String) : Except SpeedError Speed :=
  let number := core text.toList
  match splitSlash? number with
  | some (left, right) =>
      match part? (Text.trim left), part? (Text.trim right) with
      | some numerator, some denominator => ofRatio numerator denominator
      | _, _ => .error (.unreadable text)
  | none =>
      match part? number with
      | some whole => ofWhole whole
      | none =>
          match Binary64.ofText? number with
          | some value => ofBinary64 value
          | none => .error (.unreadable text)

end Chip8.Speed
