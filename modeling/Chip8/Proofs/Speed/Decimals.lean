import Chip8.Proofs.Speed.Approximation
import Chip8.Proofs.Speed.Plain

/-!
# Thousandths read from decimals

A whole number of thousandths can be written as a fraction or as a decimal,
with any zeros in front and behind.  A decimal with a point is read as the
number nearest to its value, which is the number of the speed, and this number
gives the speed back; so all of these texts are read as the same speed.
-/

namespace Chip8.Speed

open Binary64

/-- A decimal of the value of a speed denotes the number of the speed. -/
theorem denotes_toBinary64 {speed : Speed} {text : List Char}
    {coefficient places : Nat} (digits : Mantissa text coefficient places)
    (value : (coefficient : ℚ) / 10 ^ places = speed.value) :
    Denotes text speed.toBinary64 := by
  rcases nearest_ofRatio speed.numerator speed.denominator_pos with
    ⟨code, number, nearest⟩
  rw [toBinary64, number]
  apply denotes_of_mantissa digits
  rwa [zpow_neg, zpow_natCast, ← div_eq_mul_inv, value]

section

variable {count : Nat} (positive : 0 < count) (fits : count ≤ greatestCount)
include positive fits

/-- A whole number of thousandths is a speed that its number gives back. -/
theorem exists_thousandths :
    ∃ speed : Speed,
      speed.value = (count : ℚ) / thousand ∧
        ofBinary64 speed.toBinary64 = .ok speed := by
  have count_eq := toNat_ofNat fits
  have thousand_eq : (UInt32.ofNat thousand).toNat = thousand := rfl
  rcases exists_ofRatio (positive.trans_eq count_eq.symm)
    (by decide : 0 < (UInt32.ofNat thousand).toNat) with
    ⟨speed, made, value⟩
  rw [count_eq, thousand_eq] at value
  refine ⟨speed, value, ?_⟩
  rw [ofBinary64_toBinary64_eq_ok_iff]
  rcases of_ofRatio_thousand fits made with ⟨divides, product⟩
  exact ⟨divides, product.trans_le fits⟩

variable {speed : Speed} (value : speed.value = (count : ℚ) / thousand)
include value

theorem ofText_thousandths :
    ofText (Numeral.decimal count ++ "/1000") = .ok speed := by
  have characters :
      (Numeral.decimal count ++ "/1000").toList =
        (Numeral.decimal count).toList ++ '/' :: "1000".toList := by
    rw [String.toList_append]
    rfl
  have lower : Numeral.Spells "1000".toList thousand :=
    Numeral.spells_decimal thousand
  exact ofText_fraction characters (Numeral.spells_decimal count) fits lower
    (by decide) (.speed ⟨positive, by decide⟩ value)

/--
A decimal with a point is read through the number it denotes; one without a
point counts whole ones, each of a thousand thousandths.
-/
theorem ofText_decimal (back : ofBinary64 speed.toBinary64 = .ok speed)
    {text : String} {coefficient places : Nat}
    (digits : Mantissa text.toList coefficient places)
    (same : (coefficient : ℚ) / 10 ^ places = speed.value) :
    ofText text = .ok speed := by
  have denotes := denotes_toBinary64 digits same
  obtain ⟨characters, written⟩ : ∃ characters, text.toList = characters :=
    ⟨_, rfl⟩
  rw [written] at digits
  cases digits with
  | point spelled =>
      rw [ofText_point written spelled denotes]
      exact back
  | whole spelled =>
      rw [← written] at spelled
      rw [pow_zero, div_one] at same
      have counted : coefficient * thousand = count := by
        rw [value, eq_div_iff (by decide)] at same
        exact_mod_cast same
      have coefficient_pos : 0 < coefficient := by
        rw [← counted] at positive
        exact Nat.pos_of_mul_pos_right positive
      have less : coefficient ≤ greatestCount := by
        simp only [thousand] at counted
        omega
      apply ofText_digits spelled less
      refine .speed ⟨coefficient_pos, Nat.one_pos⟩ ?_
      rw [Nat.cast_one, div_one, same]

end

/--
A whole number of thousandths that fits is read as the same speed from the
fraction and from each of its decimals, however many zeros they begin and end
with; the speed has exactly this value.
-/
theorem ofText_decimal_eq_fraction {count : Nat} (positive : 0 < count)
    (fits : count ≤ greatestCount) {text : String}
    {coefficient places : Nat}
    (digits : Mantissa text.toList coefficient places)
    (same : (coefficient : ℚ) / 10 ^ places = count / 1000) :
    ofText text = ofText (Numeral.decimal count ++ "/1000") ∧
      ∃ speed, ofText text = .ok speed ∧ speed.value = count / 1000 := by
  rcases exists_thousandths positive fits with ⟨speed, value, back⟩
  have decimal := ofText_decimal positive fits value back digits
    (same.trans value.symm)
  have fraction := ofText_thousandths positive fits value
  exact ⟨decimal.trans fraction.symm, speed, decimal, value⟩

/-- One and a half, with zeros on both sides. -/
theorem ofText_decimal_eq_fraction_three_halves :
    0 < 1500 ∧ 1500 ≤ greatestCount ∧
      Mantissa "0001.500".toList 1500 3 ∧
      (1500 : ℚ) / 10 ^ 3 = 1500 / 1000 ∧
      ofText "0001.500" = ofText (Numeral.decimal 1500 ++ "/1000") ∧
      ∃ speed, ofText "0001.500" = .ok speed ∧ speed.value = 1500 / 1000 := by
  have digits : Mantissa "0001.500".toList 1500 3 :=
    @Mantissa.point "0001".toList "500".toList 1500
      ⟨by decide, List.all_eq_true.mp rfl, by decide⟩
  have value : ((1500 : Nat) : ℚ) / 10 ^ 3 = (1500 : Nat) / 1000 := by
    norm_num
  have read := ofText_decimal_eq_fraction (by decide) (by decide) digits value
  exact ⟨by decide, by decide, digits, value, read⟩

end Chip8.Speed
