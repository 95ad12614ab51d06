import Chip8.Proofs.Binary64.Decimal
import Chip8.Proofs.Speed.Value
import Chip8.Speed.Approximation

/-!
# Speeds that survive approximation

A speed is rounded to a floating-point number, its product with one thousand
is rounded again, and then to a whole number.  `abs_sub_le_of_lt` bounds both
errors of rounding up to the greatest count, by far less than half a
thousandth.  So a speed that is a whole number of thousandths, not too many of
them, comes back from its number; and nothing else can come back, as only such
speeds are made of numbers.
-/

namespace Chip8.Speed

open Binary64

/-! ## The number of a speed -/

/-- The code of the first number beyond all counts. -/
def beyondCounts : Nat :=
  1054 * fractionCount + fractionCount

theorem unitsOfCode_beyondCounts :
    unitsOfCode beyondCounts = (greatestCount + 1) * unitsPerOne := by
  rw [beyondCounts, unitsOfCode_first]
  decide +kernel

theorem beyondCounts_lt : beyondCounts < infinityCode := by
  decide

theorem fractionCount_mul_le {count : Nat} (le : count ≤ greatestCount) :
    fractionCount * count ≤ unitsPerOne := by
  have most : fractionCount * greatestCount ≤ unitsPerOne := by
    decide +kernel
  exact (Nat.mul_le_mul_left fractionCount le).trans most

theorem exists_code (speed : Speed) :
    ∃ code,
      speed.toBinary64 = ofCode false code ∧
        (Interval.ofCode code).Holds (speed.numerator * unitsPerOne)
          speed.denominator ∧
        fractionCount ≤ code ∧ code < infinityCode := by
  have large :
      fractionCount * speed.denominator ≤ speed.numerator * unitsPerOne :=
    (fractionCount_mul_le speed.denominator_le).trans
      (Nat.le_mul_of_pos_left _ speed.numerator_pos)
  have below :
      speed.numerator * unitsPerOne <
        unitsOfCode beyondCounts * speed.denominator := by
    rw [unitsOfCode_beyondCounts]
    have counted :=
      Nat.mul_lt_mul_of_pos_right
        (Nat.lt_add_one_of_le speed.numerator_le) unitsPerOne_pos
    exact counted.trans_le
      (Nat.le_mul_of_pos_right _ speed.denominator_pos)
  rcases exists_nearest speed.denominator_pos large below beyondCounts_lt
    with ⟨code, nearest, holds, normal, finite⟩
  exact ⟨code, congrArg (ofCode false) nearest, holds, normal, finite⟩

/--
Only whole speeds are rounded to the number of a whole value, since values that
differ do so by the unit of the denominator at least.
-/
theorem mul_eq_of_holds_whole {speed : Speed} {code whole : Nat}
    (holds :
      (Interval.ofCode code).Holds (speed.numerator * unitsPerOne)
        speed.denominator)
    (normal : fractionCount ≤ code)
    (holdsWhole : (Interval.ofCode code).Holds (whole * unitsPerOne) 1) :
    whole * speed.denominator = speed.numerator := by
  have near := near_of_holds holds normal
  have nearWhole :=
    (near_of_holds holdsWhole normal).mul_right speed.denominator
  rw [Nat.mul_one, Nat.mul_right_comm] at nearWhole
  have counted :=
    Nat.mul_le_mul_right unitsPerOne speed.numerator_le
  have units_pos := unitsPerOne_pos
  rcases near with ⟨upper, lower⟩
  rcases nearWhole with ⟨upperWhole, lowerWhole⟩
  by_contra different
  have apart :
      whole * speed.denominator * unitsPerOne + unitsPerOne ≤
          speed.numerator * unitsPerOne ∨
        speed.numerator * unitsPerOne + unitsPerOne ≤
          whole * speed.denominator * unitsPerOne := by
    rw [← Nat.add_one_mul, ← Nat.add_one_mul]
    rcases Nat.lt_or_gt_of_ne different with less | more
    · exact .inl (Nat.mul_le_mul_right unitsPerOne less)
    · exact .inr (Nat.mul_le_mul_right unitsPerOne more)
  simp only [fractionCount, greatestCount] at *
  omega

/-! ## Errors below the greatest count -/

/-- The bits of the greatest count, and zeros in all other places. -/
def greatestMantissa : Nat :=
  greatestCount * 2097152

/-- The code of the greatest count. -/
def greatestCode : Nat :=
  1053 * fractionCount + greatestMantissa

theorem unitsOfCode_greatestCode :
    unitsOfCode greatestCode = greatestCount * unitsPerOne := by
  have full : Full 1053 greatestMantissa := .inr (by decide)
  rw [greatestCode, unitsOfCode_binade full (by decide)]
  decide +kernel

theorem valueOfCode_greatestCode :
    valueOfCode greatestCode = greatestCount := by
  rw [valueOfCode, unitsOfCode_greatestCode, Nat.cast_mul,
    mul_div_cancel_right₀ _ unitsPerOne_cast_pos.ne']

theorem valueOfCode_beyondCounts :
    valueOfCode beyondCounts = greatestCount + 1 := by
  rw [valueOfCode, unitsOfCode_beyondCounts, Nat.cast_mul, Nat.cast_succ,
    mul_div_cancel_right₀ _ unitsPerOne_cast_pos.ne']

section

variable {value : ℚ} {code : Nat} (nearest : Nearest value code)
include nearest

/-- What is not half way to the next count is not rounded to it. -/
theorem lt_beyondCounts (lt : value < greatestCount + 1 / 2) :
    code < beyondCounts := by
  by_contra beyond
  have le := valueOfCode_strictMono.monotone (Nat.le_of_not_lt beyond)
  rw [valueOfCode_beyondCounts] at le
  have apart : valueOfCode greatestCode < valueOfCode code := by
    rw [valueOfCode_greatestCode]
    linarith
  have closer := nearest.nearest greatestCode (by decide)
  rw [abs_sub_high_le_iff apart, valueOfCode_greatestCode] at closer
  linarith

/-- Below the first number beyond all counts spacings are small. -/
theorem abs_sub_le_of_lt (nonneg : 0 ≤ value) (lt : code < beyondCounts) :
    |value - valueOfCode code| ≤ 1 / 2 ^ 22 := by
  have last : spacing code ≤ spacing (beyondCounts - 1) :=
    spacing_mono (Nat.le_sub_one_of_lt lt)
  have bound : 2 ^ 21 * spacing (beyondCounts - 1) ≤ unitsPerOne := by
    decide +kernel
  have small : (2 : ℚ) ^ 21 * spacing code ≤ unitsPerOne := by
    exact_mod_cast (Nat.mul_le_mul_left _ last).trans bound
  refine (nearest.abs_sub_le nonneg (lt.trans beyondCounts_lt)).trans ?_
  rw [div_div, div_le_div_iff₀ (mul_pos unitsPerOne_cast_pos two_pos)
    (by positivity)]
  linarith

end

theorem cast_thousand : ((thousand : Nat) : ℚ) = 1000 := by
  rw [thousand, Nat.cast_ofNat]

theorem nearest_toBinary64 (speed : Speed) :
    Nearest speed.value speed.toBinary64.code := by
  rcases nearest_ofRatio speed.numerator speed.denominator_pos with
    ⟨code, number, nearest⟩
  rw [toBinary64, number, code_ofCode false code nearest.lt_signPlace]
  exact nearest

/--
Both errors together are less than half a thousandth.  The number is off by
little, even a thousand times over; so its product is not beyond all counts,
and is off by little again.
-/
theorem nearestWhole_toBinary64 {speed : Speed} {count : Nat}
    (counted : speed.value * thousand = count)
    (fits : count ≤ greatestCount) :
    (speed.toBinary64.scale thousand).isFinite = true ∧
      (speed.toBinary64.scale thousand).nearestWhole = count := by
  have countFits : (count : ℚ) ≤ greatestCount := Nat.cast_le.mpr fits
  have count_nonneg : (0 : ℚ) ≤ count := Nat.cast_nonneg count
  rw [cast_thousand] at counted
  have nearest := nearest_toBinary64 speed
  have number : |speed.value - speed.toBinary64.magnitude| ≤ 1 / 2 ^ 22 :=
    abs_sub_le_of_lt nearest (by linarith)
      (lt_beyondCounts nearest (by linarith))
  rw [abs_le] at number
  have product := nearest_scale thousand speed.toBinary64
  rw [cast_thousand] at product
  have product_nonneg : 0 ≤ speed.toBinary64.magnitude * 1000 :=
    mul_nonneg speed.toBinary64.magnitude_nonneg (by norm_num)
  have below := lt_beyondCounts product (by linarith)
  have scaled :
      |speed.toBinary64.magnitude * 1000 -
          (speed.toBinary64.scale thousand).magnitude| ≤ 1 / 2 ^ 22 :=
    abs_sub_le_of_lt product product_nonneg below
  have whole := abs_nearestWhole_sub_le (speed.toBinary64.scale thousand)
  rw [abs_le] at scaled whole
  refine ⟨isFinite_iff.mpr (below.trans beyondCounts_lt), ?_⟩
  have upper :
      ((speed.toBinary64.scale thousand).nearestWhole : ℚ) < count + 1 := by
    linarith
  have lower :
      (count : ℚ) < (speed.toBinary64.scale thousand).nearestWhole + 1 := by
    linarith
  norm_cast at upper lower
  omega

/-! ## Speeds of numbers -/

/-- Whether a number is finite and greater than zero. -/
structure IsPositive (number : Binary64) : Prop where
  finite : number.isFinite = true
  unsigned : number.isNegative = false
  nonzero : number.isZero = false

theorem isPositive_toBinary64 (speed : Speed) :
    IsPositive speed.toBinary64 := by
  rcases exists_code speed with ⟨code, number, -, normal, finite⟩
  rw [number]
  exact {
    finite := isFinite_ofCode false finite
    unsigned := isNegative_ofCode false code (lt_signPlace finite)
    nonzero := isZero_ofCode false finite (Nat.zero_lt_of_lt normal) }

section

variable {number : Binary64}

theorem isPositive_iff :
    IsPositive number ↔ number.isFinite = true ∧ 0 < number.value := by
  have zero : number.isZero = true ↔ number.code = 0 := decide_eq_true_iff
  constructor
  · intro positive
    have nonzero : number.code ≠ 0 := by
      rw [Ne, ← zero, positive.nonzero]
      exact Bool.false_ne_true
    refine ⟨positive.finite, ?_⟩
    rw [value_eq_magnitude positive.unsigned, ← valueOfCode_zero]
    exact valueOfCode_strictMono (Nat.pos_of_ne_zero nonzero)
  · rintro ⟨finite, positive⟩
    have unsigned := isNegative_eq_false positive
    refine ⟨finite, unsigned, ?_⟩
    rw [← Bool.not_eq_true, zero]
    intro nothing
    rw [value_eq_magnitude unsigned, magnitude, units, nothing] at positive
    exact positive.ne' valueOfCode_zero

theorem IsPositive.nearest (positive : IsPositive number) :
    Nearest number.value number.code := by
  rw [value_eq_magnitude positive.unsigned]
  exact nearest_valueOfCode (isFinite_iff.mp positive.finite).le

end

/-- Whether the thousandths of a number are a count, and not zero. -/
def Admissible (scaled : Binary64) : Prop :=
  scaled.isFinite = true ∧
    1 ≤ scaled.nearestWhole ∧ scaled.nearestWhole ≤ greatestCount

section

variable {number : Binary64} (positive : IsPositive number)
include positive

theorem ofBinary64_of_admissible
    (admissible : Admissible (number.scale thousand)) :
    ofBinary64 number =
      ofRatio (.ofNat (number.scale thousand).nearestWhole)
        (.ofNat thousand) := by
  rcases admissible with ⟨scaledFinite, least, most⟩
  simp only [ofBinary64, positive.finite, positive.unsigned,
    positive.nonzero, scaledFinite, Bool.not_true, Bool.or_self,
    Bool.false_eq_true, if_false]
  exact if_neg (by omega)

theorem exists_of_admissible
    (admissible : Admissible (number.scale thousand)) :
    ∃ speed, ofBinary64 number = .ok speed := by
  rw [ofBinary64_of_admissible positive admissible, ofRatio_eq_ok_iff,
    toNat_ofNat admissible.2.2]
  exact ⟨admissible.2.1, by decide⟩

theorem ofBinary64_of_not_admissible
    (inadmissible : ¬ Admissible (number.scale thousand)) :
    ofBinary64 number = .error (.outOfRange number) := by
  simp only [ofBinary64, positive.finite, positive.unsigned,
    positive.nonzero, Bool.not_true, Bool.or_self, Bool.false_eq_true,
    if_false]
  split
  next => rfl
  next scaledFinite =>
    refine if_pos ?_
    by_contra inRange
    apply inadmissible
    refine ⟨?_, by omega, by omega⟩
    simpa using scaledFinite

/-- A positive number gives a speed, or is out of range. -/
theorem ofBinary64_cases :
    (∃ speed, ofBinary64 number = .ok speed) ∨
      ofBinary64 number = .error (.outOfRange number) := by
  by_cases admissible : Admissible (number.scale thousand)
  · exact .inl (exists_of_admissible positive admissible)
  · exact .inr (ofBinary64_of_not_admissible positive admissible)

end

/-- The number of a speed gives a speed, or is out of range. -/
theorem ofBinary64_toBinary64_cases (speed : Speed) :
    (∃ other, ofBinary64 speed.toBinary64 = .ok other) ∨
      ofBinary64 speed.toBinary64 =
        .error (.outOfRange speed.toBinary64) :=
  ofBinary64_cases (isPositive_toBinary64 speed)

section

variable {number : Binary64} {speed : Speed}
  (made : ofBinary64 number = .ok speed)
include made

theorem isPositive_of_ofBinary64 : IsPositive number := by
  unfold ofBinary64 at made
  dsimp only at made
  split at made
  · cases made
  next finite =>
    split at made
    · cases made
    next positive =>
      rw [Bool.or_eq_true, not_or, Bool.not_eq_true, Bool.not_eq_true]
        at positive
      exact ⟨by simpa using finite, positive.1, positive.2⟩

/-- A number that makes a speed has thousandths, which the speed is made of. -/
theorem ofRatio_of_ofBinary64 :
    Admissible (number.scale thousand) ∧
      ofRatio (.ofNat (number.scale thousand).nearestWhole)
        (.ofNat thousand) = .ok speed := by
  have positive := isPositive_of_ofBinary64 made
  by_cases admissible : Admissible (number.scale thousand)
  · rw [ofBinary64_of_admissible positive admissible] at made
    exact ⟨admissible, made⟩
  · rw [ofBinary64_of_not_admissible positive admissible] at made
    cases made

end

/-- A speed with the value of a count of thousandths has so many. -/
theorem of_ofRatio_thousand {speed : Speed} {count : Nat}
    (most : count ≤ greatestCount)
    (made : ofRatio (.ofNat count) (.ofNat thousand) = .ok speed) :
    speed.denominator ∣ thousand ∧
      speed.numerator * (thousand / speed.denominator) = count := by
  have cross := ofRatio_cross made
  rw [toNat_ofNat most, toNat_ofNat (by decide)] at cross
  have divides : speed.denominator ∣ thousand :=
    speed.coprime.symm.dvd_of_dvd_mul_left
      ⟨count, cross.trans (Nat.mul_comm _ _)⟩
  refine ⟨divides, ?_⟩
  rw [← Nat.mul_div_assoc _ divides, cross]
  exact Nat.mul_div_cancel _ speed.denominator_pos

theorem value_mul_thousand {speed : Speed}
    (divides : speed.denominator ∣ thousand) :
    speed.value * thousand =
      (speed.numerator * (thousand / speed.denominator) : Nat) := by
  have nonzero : (speed.denominator : ℚ) ≠ 0 :=
    Nat.cast_ne_zero.mpr speed.denominator_pos.ne'
  rw [value, div_mul_eq_mul_div, div_eq_iff nonzero, ← Nat.cast_mul,
    ← Nat.cast_mul, Nat.mul_assoc, Nat.div_mul_cancel divides]

/--
A speed comes back from its number exactly if it is a whole number of
thousandths, and not too many of them.
-/
theorem ofBinary64_toBinary64_eq_ok_iff (speed : Speed) :
    ofBinary64 speed.toBinary64 = .ok speed ↔
      speed.denominator ∣ thousand ∧
        speed.numerator * (thousand / speed.denominator) ≤
          greatestCount := by
  constructor
  · intro back
    rcases ofRatio_of_ofBinary64 back with ⟨admissible, made⟩
    rcases of_ofRatio_thousand admissible.2.2 made with ⟨divides, count⟩
    exact ⟨divides, count.trans_le admissible.2.2⟩
  · rintro ⟨divides, fits⟩
    have factor_pos :=
      Nat.div_pos (Nat.le_of_dvd (by decide) divides) speed.denominator_pos
    have count_pos := Nat.mul_pos speed.numerator_pos factor_pos
    rcases nearestWhole_toBinary64 (value_mul_thousand divides) fits with
      ⟨finite, count⟩
    rw [← count] at count_pos fits
    rw [ofBinary64_of_admissible (isPositive_toBinary64 speed)
      ⟨finite, count_pos, fits⟩]
    apply ofRatio_of_cross (by decide) fits (by decide)
    rw [count, Nat.mul_assoc, Nat.div_mul_cancel divides]

end Chip8.Speed
