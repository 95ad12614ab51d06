/-!
# Numerals

Decimal and upper-case hexadecimal digits of natural numbers, filling to a
width, and the two bases in which operand fields are shown.  No numeral is
written with leading zeros unless a width asks for them.
-/

namespace Chip8.Numeral

/-- Decimal digits; zero is the single digit `0`. -/
def decimal (value : Nat) : String :=
  String.ofList (Nat.toDigits 10 value)

/-- Upper-case hexadecimal digits; zero is the single digit `0`. -/
def hexadecimal (value : Nat) : String :=
  String.ofList ((Nat.toDigits 16 value).map Char.toUpper)

/-- A number in hexadecimal, with lower-case digits. -/
def lowerHexadecimal (value : Nat) : String :=
  String.ofList (Nat.toDigits 16 value)

/-- Fill a text on its left up to `width` characters. -/
def padLeft (fill : Char) (width : Nat) (text : String) : String :=
  String.ofList (text.toList.leftpad width fill)

/-- Fill a text up to a width, behind its characters. -/
def padRight (fill : Char) (width : Nat) (text : String) : String :=
  String.ofList (text.toList.rightpad width fill)

@[simp]
theorem toList_decimal (value : Nat) :
    (decimal value).toList = Nat.toDigits 10 value := by
  simp [decimal]

@[simp]
theorem toList_hexadecimal (value : Nat) :
    (hexadecimal value).toList =
      (Nat.toDigits 16 value).map Char.toUpper := by
  simp [hexadecimal]

@[simp]
theorem toList_padLeft (fill : Char) (width : Nat) (text : String) :
    (padLeft fill width text).toList = text.toList.leftpad width fill := by
  simp [padLeft]

/-! ## Hexadecimal layouts -/

/-- Where a numeral shorter than its width is filled, and with what. -/
inductive Fill where
  | leadingZeros
  | trailingBlanks
deriving DecidableEq, Repr

/--
The layout of a hexadecimal numeral: whether it carries the mark `0x`, how
wide it is at least, the mark included, and how it is filled.
-/
structure HexLayout where
  marked : Bool := false
  width : Nat := 0
  fill : Fill := .leadingZeros
deriving DecidableEq, Repr

/-- Zeros stand between the mark and the digits, blanks after both. -/
def HexLayout.write (layout : HexLayout) (value : Nat) : String :=
  let mark := if layout.marked then "0x" else ""
  match layout.fill with
  | .leadingZeros =>
      mark ++
        padLeft '0' (layout.width - mark.length) (hexadecimal value)
  | .trailingBlanks =>
      padRight ' ' layout.width (mark ++ hexadecimal value)

end Chip8.Numeral

namespace Chip8

/-! ## Bases for operand fields -/

/-- The base in which operand fields are shown. -/
inductive Base where
  | decimal
  | hexadecimal
deriving DecidableEq, Repr, Inhabited

/-- A base other than ten and sixteen was asked for. -/
structure BaseError where
  radix : Nat
deriving DecidableEq, Repr

/-- The text of a refusal names the base that was asked for. -/
def BaseError.message (error : BaseError) : String :=
  "unsupported base " ++ Numeral.decimal error.radix ++
    "; expected 10 or 16"

/-- The base with the given radix: ten and sixteen are supported. -/
def Base.ofRadix (radix : Nat) : Except BaseError Base :=
  if radix = 10 then
    .ok .decimal
  else if radix = 16 then
    .ok .hexadecimal
  else
    .error ⟨radix⟩

/-- Fields are shown in hexadecimal unless a base is asked for. -/
def Base.standard : Base :=
  .hexadecimal

/-- Decimal digits, or `0x` and upper-case digits; neither is padded. -/
def Base.write (base : Base) (value : Nat) : String :=
  match base with
  | .decimal => Numeral.decimal value
  | .hexadecimal => "0x" ++ Numeral.hexadecimal value

end Chip8
