import Chip8.Text.Blank
import Chip8.Text.Numeral
import Mathlib.Algebra.Order.Ring.Nat

/-!
# Digits of numerals

A numeral has as many digits as its value asks for.  Its characters are
digits, so that it has no blank, no sign, no point and no slash in it.

`Spells` is what reading a text of digits depends on.  Numerals spell their
values, and zeros on either side change the value or leave it alone.
-/

namespace Chip8.Numeral

/-! ## How many digits -/

theorem lt_pow_length (value : Nat) :
    value < 10 ^ (Nat.toDigits 10 value).length :=
  (Nat.length_toDigits_le_iff (by decide) Nat.length_toDigits_pos).mp le_rfl

theorem pow_length_pred_le {value : Nat} (nonzero : value ≠ 0) :
    10 ^ ((Nat.toDigits 10 value).length - 1) ≤ value := by
  rcases Nat.eq_zero_or_pos ((Nat.toDigits 10 value).length - 1) with
    one | more
  · rw [one]
    exact Nat.one_le_iff_ne_zero.mpr nonzero
  · by_contra less
    have shorter :=
      (Nat.length_toDigits_le_iff (by decide) more).mpr (Nat.lt_of_not_le less)
    omega

/-! ## Which characters -/

theorem isDigit_of_mem {value : Nat} {character : Char}
    (member : character ∈ Nat.toDigits 10 value) :
    character.isDigit = true :=
  Nat.isDigit_of_mem_toDigits (by decide) (by decide) member

theorem ne_of_isDigit {character other : Char}
    (digit : character.isDigit = true) (noDigit : other.isDigit = false) :
    character ≠ other := by
  rintro rfl
  rw [digit] at noDigit
  cases noDigit

theorem isBlank_of_isDigit {character : Char}
    (digit : character.isDigit = true) :
    Text.isBlank character = false := by
  have digits : 48 ≤ character.toNat ∧ character.toNat ≤ 57 := by
    simpa [Char.isDigit, UInt32.le_iff_toNat_le] using digit
  have apart :
      ∀ range ∈ Text.blankRanges, range.2 < 48 ∨ 57 < range.1 := by
    decide
  rw [Text.isBlank, List.any_eq_false]
  intro range member
  rw [Bool.and_eq_true, decide_eq_true_eq, decide_eq_true_eq]
  have clear := apart range member
  omega

/-! ## Texts of digits -/

/-- Digits, at least one, with a given value. -/
structure Spells (text : List Char) (value : Nat) : Prop where
  nonempty : text ≠ []
  digits : ∀ character ∈ text, character.isDigit = true
  value_eq : Nat.ofDigitChars 10 text 0 = value

theorem spells_toDigits (value : Nat) :
    Spells (Nat.toDigits 10 value) value where
  nonempty := Nat.toDigits_ne_nil
  digits _ := isDigit_of_mem
  value_eq := Nat.ofDigitChars_ten_toDigits

theorem spells_decimal (value : Nat) :
    Spells (decimal value).toList value := by
  rw [toList_decimal]
  exact spells_toDigits value

theorem isDigit_of_mem_zeros {count : Nat} {character : Char}
    (member : character ∈ List.replicate count '0') :
    character.isDigit = true := by
  rw [List.eq_of_mem_replicate member]
  rfl

namespace Spells

section

variable {left right : List Char} {value : Nat}
  (spelled : Spells (left ++ right) value)
include spelled

theorem isDigit_left :
    ∀ character ∈ left, character.isDigit = true :=
  fun character member =>
    spelled.digits character (List.mem_append_left _ member)

theorem isDigit_right :
    ∀ character ∈ right, character.isDigit = true :=
  fun character member =>
    spelled.digits character (List.mem_append_right _ member)

end

variable {text : List Char} {value : Nat} (spelled : Spells text value)
include spelled

theorem append_zeros (count : Nat) :
    Spells (text ++ List.replicate count '0') (10 ^ count * value) where
  nonempty := List.append_ne_nil_of_left_ne_nil spelled.nonempty _
  digits character member := by
    rcases List.mem_append.mp member with member | member
    · exact spelled.digits character member
    · exact isDigit_of_mem_zeros member
  value_eq := by
    rw [Nat.ofDigitChars_append, spelled.value_eq,
      Nat.ofDigitChars_replicate_zero]

theorem leftpad (width : Nat) :
    Spells (text.leftpad width '0') value where
  nonempty := List.append_ne_nil_of_right_ne_nil _ spelled.nonempty
  digits character member := by
    rcases List.mem_append.mp member with member | member
    · exact isDigit_of_mem_zeros member
    · exact spelled.digits character member
  value_eq := by
    rw [List.leftpad, Nat.ofDigitChars_append,
      Nat.ofDigitChars_replicate_zero, Nat.mul_zero, spelled.value_eq]

theorem not_mem {other : Char} (noDigit : other.isDigit = false) :
    other ∉ text := by
  intro member
  exact ne_of_isDigit (spelled.digits other member) noDigit rfl

end Spells

end Chip8.Numeral
