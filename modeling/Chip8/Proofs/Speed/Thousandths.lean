import Chip8.Proofs.Speed.Decimals

/-!
# The nearest thousandth

The speed of a number is found by two roundings, of the product with one
thousand and of this product to a whole number.  Both keep the order of
values, so greater numbers make greater speeds, and the numbers that make a
speed are those between two bounds.

The first rounding is off by half a spacing at most.  Products that are a count
are below the first number beyond all counts, where spacings are not greater
than one part in two to the power of twenty-one; this is the small part by
which a speed can miss its number by more than half a thousandth.
-/

namespace Chip8.Speed

open Binary64

/-! ## Order -/

theorem value_of_ofBinary64 {number : Binary64} {speed : Speed}
    (made : ofBinary64 number = .ok speed) :
    speed.value =
      ((number.scale thousand).nearestWhole : ℚ) / thousand := by
  rcases ofRatio_of_ofBinary64 made with ⟨admissible, ratio⟩
  have thousand_eq : (UInt32.ofNat thousand).toNat = thousand := rfl
  rw [value_of_ofRatio ratio, toNat_ofNat admissible.2.2, thousand_eq]

/-- A greater number does not make a smaller speed. -/
theorem value_le_of_value_le {smaller larger : Binary64}
    {slower faster : Speed} (le : smaller.value ≤ larger.value)
    (madeSlower : ofBinary64 smaller = .ok slower)
    (madeFaster : ofBinary64 larger = .ok faster) :
    slower.value ≤ faster.value := by
  rw [value_le_iff_code_le (isPositive_of_ofBinary64 madeSlower).unsigned
    (isPositive_of_ofBinary64 madeFaster).unsigned] at le
  have counts := nearestWhole_mono (code_scale_mono thousand le)
  rw [value_of_ofBinary64 madeSlower, value_of_ofBinary64 madeFaster]
  exact div_le_div_of_nonneg_right (Nat.cast_le.mpr counts)
    (Nat.cast_nonneg _)

/-- Whatever lies between two numbers that make a speed makes one. -/
theorem exists_of_between {smaller number larger : Binary64}
    (low : smaller.value ≤ number.value)
    (high : number.value ≤ larger.value) {slower faster : Speed}
    (madeSlower : ofBinary64 smaller = .ok slower)
    (madeFaster : ofBinary64 larger = .ok faster) :
    ∃ speed, ofBinary64 number = .ok speed := by
  have smallerPositive := isPositive_of_ofBinary64 madeSlower
  have largerPositive := isPositive_of_ofBinary64 madeFaster
  have positive := (isPositive_iff.mp smallerPositive).2.trans_le low
  have unsigned := isNegative_eq_false positive
  rw [value_le_iff_code_le smallerPositive.unsigned unsigned] at low
  rw [value_le_iff_code_le unsigned largerPositive.unsigned] at high
  have finite : number.isFinite = true :=
    isFinite_iff.mpr
      (high.trans_lt (isFinite_iff.mp largerPositive.finite))
  apply exists_of_admissible (isPositive_iff.mpr ⟨finite, positive⟩)
  rcases ofRatio_of_ofBinary64 madeSlower with ⟨⟨-, least, -⟩, -⟩
  rcases ofRatio_of_ofBinary64 madeFaster with ⟨⟨scaledFinite, -, most⟩, -⟩
  have fromSmaller := code_scale_mono thousand low
  have toLarger := code_scale_mono thousand high
  exact ⟨isFinite_iff.mpr (toLarger.trans_lt (isFinite_iff.mp scaledFinite)),
    least.trans (nearestWhole_mono fromSmaller),
    (nearestWhole_mono toLarger).trans most⟩

/-! ## Numbers in and out of range -/

/-- What is neither below the least count nor above the greatest is a speed. -/
theorem exists_of_in_range {number : Binary64}
    (positive : IsPositive number) (low : 1 / 1000 ≤ number.value)
    (high : number.value ≤ greatestCount / 1000) :
    ∃ speed, ofBinary64 number = .ok speed := by
  rcases exists_thousandths Nat.one_pos (by decide) with
    ⟨least, leastValue, madeLeast⟩
  rcases exists_thousandths (by decide) le_rfl with
    ⟨most, mostValue, madeMost⟩
  rw [Nat.cast_one] at leastValue
  have fromLeast :=
    nearest_mono (leastValue.trans_le low) (nearest_toBinary64 least)
      positive.nearest
  have toMost :=
    nearest_mono (high.trans mostValue.ge) positive.nearest
      (nearest_toBinary64 most)
  rw [← value_le_iff_code_le (isPositive_toBinary64 _).unsigned
    positive.unsigned] at fromLeast
  rw [← value_le_iff_code_le positive.unsigned
    (isPositive_toBinary64 _).unsigned] at toMost
  exact exists_of_between fromLeast toMost madeLeast madeMost

/-- The product of a number of the first binade is far below one half. -/
theorem nearestWhole_of_subnormal {number : Binary64}
    (subnormal : number.code < fractionCount) :
    (number.scale thousand).nearestWhole = 0 := by
  have units : number.units = number.code := unitsOfCode_of_lt subnormal
  have bound := unitsOfCode_first 10
  have below :
      number.magnitude * thousand ≤
        valueOfCode (10 * fractionCount + fractionCount) := by
    rw [magnitude, valueOfCode, bound, units, div_mul_eq_mul_div]
    apply div_le_div_of_nonneg_right _ unitsPerOne_cast_pos.le
    have product := Nat.mul_le_mul subnormal.le (by decide : thousand ≤ 1024)
    exact_mod_cast product
  have code_le :=
    nearest_mono below (nearest_scale thousand number)
      (nearest_valueOfCode (by decide))
  have units_le := unitsOfCode_strictMono.monotone code_le
  have small : 2 * (fractionCount * Nat.pow 2 10) < unitsPerOne := by
    decide +kernel
  rw [nearestWhole, roundHalfUp_eq_iff unitsPerOne_pos]
  change (number.scale thousand).units ≤ _ at units_le
  omega

/-! ## Accuracy -/

theorem code_lt_beyondCounts {number : Binary64}
    (fits : number.nearestWhole ≤ greatestCount) :
    number.code < beyondCounts := by
  have high := ((roundHalfUp_eq_iff unitsPerOne_pos).mp
    (rfl : number.nearestWhole = _)).2
  have counted := Nat.mul_le_mul_right unitsPerOne fits
  have next := Nat.add_one_mul greatestCount unitsPerOne
  have units_pos := unitsPerOne_pos
  rw [← unitsOfCode_strictMono.lt_iff_lt, unitsOfCode_beyondCounts]
  change number.units < _
  omega

/-- The product of a speed with one thousand is off by a small part at most. -/
theorem abs_scale_sub_le {number : Binary64}
    (admissible : Admissible (number.scale thousand)) :
    |number.magnitude * thousand - (number.scale thousand).magnitude| ≤
      1 / 2 ^ 22 := by
  have product_nonneg : 0 ≤ number.magnitude * thousand :=
    mul_nonneg number.magnitude_nonneg (Nat.cast_nonneg _)
  exact abs_sub_le_of_lt (nearest_scale thousand number) product_nonneg
    (code_lt_beyondCounts admissible.2.2)

theorem abs_value_sub_le {number : Binary64} {speed : Speed}
    (made : ofBinary64 number = .ok speed) :
    |speed.value - number.value| ≤ 1 / 2000 + 1 / 2 ^ 31 := by
  have positive := isPositive_of_ofBinary64 made
  have product := abs_scale_sub_le (ofRatio_of_ofBinary64 made).1
  have whole := abs_nearestWhole_sub_le (number.scale thousand)
  rw [cast_thousand, abs_le] at product
  rw [abs_le] at whole
  rw [value_of_ofBinary64 made, value_eq_magnitude positive.unsigned,
    cast_thousand, abs_le]
  constructor <;> linarith

/--
Greater numbers do not make smaller speeds, and whatever lies between two
numbers that make a speed makes one.  A speed is a whole number of thousandths
and misses its number by half a thousandth, but for the small part by which
the product with one thousand can be off.  Every finite number above zero
makes a speed or is reported as out of range: it makes one from the least
count of thousandths up to the greatest one, and none if the product is
infinite or the number is of the first binade.
-/
theorem ofBinary64_approximates :
    (∀ (smaller larger : Binary64) (slower faster : Speed),
        smaller.value ≤ larger.value → ofBinary64 smaller = .ok slower →
          ofBinary64 larger = .ok faster → slower.value ≤ faster.value) ∧
      (∀ smaller number larger : Binary64, smaller.value ≤ number.value →
        number.value ≤ larger.value →
          (∃ speed, ofBinary64 smaller = .ok speed) →
            (∃ speed, ofBinary64 larger = .ok speed) →
              ∃ speed, ofBinary64 number = .ok speed) ∧
      (∀ (number : Binary64) (speed : Speed), ofBinary64 number = .ok speed →
        |speed.value - number.value| ≤ 1 / 2000 + 1 / 2 ^ 31 ∧
          speed.denominator ∣ 1000) ∧
      ∀ number : Binary64, number.isFinite = true → 0 < number.value →
        ((∃ speed, ofBinary64 number = .ok speed) ∨
            ofBinary64 number = .error (.outOfRange number)) ∧
          (1 / 1000 ≤ number.value → number.value ≤ greatestCount / 1000 →
            ∃ speed, ofBinary64 number = .ok speed) ∧
          ((number.scale thousand).isFinite = false ∨
              number.code < fractionCount →
            ofBinary64 number = .error (.outOfRange number)) := by
  refine ⟨fun _ _ _ _ => value_le_of_value_le, ?_, ?_, ?_⟩
  · rintro smaller number larger low high ⟨_, slower⟩ ⟨_, faster⟩
    exact exists_of_between low high slower faster
  · intro number speed made
    rcases ofRatio_of_ofBinary64 made with ⟨admissible, ratio⟩
    exact ⟨abs_value_sub_le made,
      (of_ofRatio_thousand admissible.2.2 ratio).1⟩
  · intro number finite above
    have positive := isPositive_iff.mpr ⟨finite, above⟩
    refine ⟨ofBinary64_cases positive, exists_of_in_range positive, ?_⟩
    intro outside
    apply ofBinary64_of_not_admissible positive
    rintro ⟨scaledFinite, least, -⟩
    rcases outside with infinite | subnormal
    · rw [scaledFinite] at infinite
      cases infinite
    · rw [nearestWhole_of_subnormal subnormal] at least
      cases least

end Chip8.Speed
