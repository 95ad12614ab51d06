import Chip8.Proofs.Text.Numeral

/-!
# Values in both bases

A value can be read back from its text in either base, and no text of a value
has a blank in it.  For decimal digits both are known; for the upper-case
hexadecimal ones they follow digit by digit, from the last digit to the first.
-/

namespace Chip8.Numeral

/-! ## Hexadecimal digits -/

/-- The value of an upper-case hexadecimal digit. -/
def digitValue (digit : Char) : Nat :=
  if digit.isDigit then digit.toNat - 48 else digit.toNat - 55

/-- The value of some upper-case hexadecimal digits. -/
def hexadecimalValue (digits : List Char) : Nat :=
  digits.foldl (fun value digit => 16 * value + digitValue digit) 0

theorem digitValue_toUpper_digitChar :
    ∀ digit < 16, digitValue (Nat.digitChar digit).toUpper = digit := by
  decide

theorem hexadecimalValue_concat (digits : List Char) (last : Char) :
    hexadecimalValue (digits ++ [last]) =
      16 * hexadecimalValue digits + digitValue last :=
  List.foldl_append

/-- The digits of a value: those of its sixteenth, and one for the rest. -/
theorem toList_hexadecimal_eq_if (value : Nat) :
    (hexadecimal value).toList =
      if value < 16 then
        [(Nat.digitChar value).toUpper]
      else
        (hexadecimal (value / 16)).toList ++
          [(Nat.digitChar (value % 16)).toUpper] := by
  rw [toList_hexadecimal, toList_hexadecimal, Nat.toDigits_eq_if (by decide)]
  split
  · rfl
  · exact List.map_append

theorem hexadecimalValue_hexadecimal (value : Nat) :
    hexadecimalValue (hexadecimal value).toList = value := by
  induction value using Nat.strongRecOn with
  | ind value ih =>
      rw [toList_hexadecimal_eq_if]
      split
      next single =>
        have digit := digitValue_toUpper_digitChar value single
        exact (Nat.zero_add _).trans digit
      next more =>
        rw [hexadecimalValue_concat, ih _ (by omega),
          digitValue_toUpper_digitChar _ (Nat.mod_lt _ (by decide)),
          Nat.div_add_mod]

theorem hexadecimal_inj {first second : Nat} :
    hexadecimal first = hexadecimal second ↔ first = second := by
  constructor
  · intro same
    rw [← hexadecimalValue_hexadecimal first, same,
      hexadecimalValue_hexadecimal]
  · exact congrArg hexadecimal

theorem decimal_inj {first second : Nat} :
    decimal first = decimal second ↔ first = second := by
  constructor
  · intro same
    rw [← (spells_decimal first).value_eq, same,
      (spells_decimal second).value_eq]
  · exact congrArg decimal

/-! ## Blanks -/

theorem blank_not_mem_decimal (value : Nat) : ' ' ∉ (decimal value).toList :=
  (spells_decimal value).not_mem rfl

theorem blank_ne_toUpper_digitChar :
    ∀ digit < 16, ' ' ≠ (Nat.digitChar digit).toUpper := by
  decide

theorem blank_not_mem_hexadecimal (value : Nat) :
    ' ' ∉ (hexadecimal value).toList := by
  induction value using Nat.strongRecOn with
  | ind value ih =>
      rw [toList_hexadecimal_eq_if]
      split
      next single =>
        rw [List.mem_singleton]
        exact blank_ne_toUpper_digitChar value single
      next more =>
        rw [List.mem_append, List.mem_singleton, not_or]
        exact ⟨ih _ (by omega),
          blank_ne_toUpper_digitChar _ (Nat.mod_lt _ (by decide))⟩

end Chip8.Numeral

namespace Chip8.Base

/-- A value is known by its text in a base. -/
theorem write_inj {base : Base} {first second : Nat} :
    base.write first = base.write second ↔ first = second := by
  cases base with
  | decimal => exact Numeral.decimal_inj
  | hexadecimal =>
      exact (String.append_right_inj "0x").trans Numeral.hexadecimal_inj

theorem blank_not_mem_write (base : Base) (value : Nat) :
    ' ' ∉ (base.write value).toList := by
  cases base with
  | decimal => exact Numeral.blank_not_mem_decimal value
  | hexadecimal =>
      rw [write, String.toList_append, List.mem_append, not_or]
      exact ⟨by decide, Numeral.blank_not_mem_hexadecimal value⟩

end Chip8.Base
