import Chip8.Proofs.Binary64.Nearest
import Chip8.Proofs.Binary64.Value
import Chip8.Proofs.Rounding
import Mathlib.Algebra.Order.AbsoluteValue.Basic
import Mathlib.Tactic.Linarith

/-!
# Rounding to the nearest number

A value is rounded to the number that is nearest to it, and half way between
two numbers to the one with the even code.  Infinity takes the place of the
power of two that follows the finite numbers, which is where a number with
more exponents would be.

`nearest_unique` says that this leaves no choice and `nearest_nearestCode` that
rounding does so.  What follows from it does not depend on how the nearest
code is found: rounding keeps the order of values, by `nearest_mono`, and is
off by half a spacing at most, by `Nearest.abs_sub_le`.
-/

namespace Chip8.Binary64

/-! ## The values of codes -/

/-- The value of a code; that of infinity is the power of two it stands for. -/
def valueOfCode (code : Nat) : ℚ :=
  unitsOfCode code / unitsPerOne

theorem unitsPerOne_cast_pos : (0 : ℚ) < unitsPerOne :=
  Nat.cast_pos.mpr unitsPerOne_pos

theorem valueOfCode_strictMono : StrictMono valueOfCode := by
  intro smaller larger lt
  exact div_lt_div_of_pos_right
    (Nat.cast_lt.mpr (unitsOfCode_strictMono lt)) unitsPerOne_cast_pos

theorem valueOfCode_zero : valueOfCode 0 = 0 := by
  rw [valueOfCode, unitsOfCode_of_lt (by decide), Nat.cast_zero, zero_div]

theorem valueOfCode_succ (code : Nat) :
    valueOfCode (code + 1) =
      valueOfCode code + spacing code / unitsPerOne := by
  rw [valueOfCode, valueOfCode, unitsOfCode_succ, Nat.cast_add, add_div]

/-! ## The nearest code -/

/-- A code is as near to a value as any other, or it is even and nearest. -/
structure Nearest (value : ℚ) (code : Nat) : Prop where
  le_infinity : code ≤ infinityCode
  nearest :
    ∀ other ≤ infinityCode,
      |value - valueOfCode code| ≤ |value - valueOfCode other|
  even :
    ∀ other ≤ infinityCode, other ≠ code →
      |value - valueOfCode other| = |value - valueOfCode code| →
        code % 2 = 0

section

variable {value low high : ℚ}

/-- The greater of two points is as near to the values from the middle on. -/
theorem abs_sub_high_le_iff (lt : low < high) :
    |value - high| ≤ |value - low| ↔ low + high ≤ 2 * value := by
  rcases abs_cases (value - low) with ⟨lowAbs, _⟩ | ⟨lowAbs, _⟩ <;>
    rcases abs_cases (value - high) with ⟨highAbs, _⟩ | ⟨highAbs, _⟩ <;>
    rw [lowAbs, highAbs] <;>
    constructor <;>
    intro <;>
    linarith

/-- The smaller of two points is as near to the values up to the middle. -/
theorem abs_sub_low_le_iff (lt : low < high) :
    |value - low| ≤ |value - high| ↔ 2 * value ≤ low + high := by
  rcases abs_cases (value - low) with ⟨lowAbs, _⟩ | ⟨lowAbs, _⟩ <;>
    rcases abs_cases (value - high) with ⟨highAbs, _⟩ | ⟨highAbs, _⟩ <;>
    rw [lowAbs, highAbs] <;>
    constructor <;>
    intro <;>
    linarith

end

/--
A code is nearest to the values from half way to the code before it, up to
half way to the next one; these ends belong to it if it is even.  Its
neighbours are the nearest of the other codes.
-/
theorem nearest_of_between {value : ℚ} {code : Nat}
    (le : code ≤ infinityCode)
    (low : valueOfCode (code - 1) + valueOfCode code ≤ 2 * value)
    (high :
      code < infinityCode →
        2 * value ≤ valueOfCode code + valueOfCode (code + 1))
    (tie :
      valueOfCode (code - 1) + valueOfCode code = 2 * value ∨
          2 * value = valueOfCode code + valueOfCode (code + 1) →
        code % 2 = 0) :
    Nearest value code := by
  have monotone := valueOfCode_strictMono.monotone
  have fromBelow {other : Nat} (lt : other < code) :
      valueOfCode other + valueOfCode code ≤
        valueOfCode (code - 1) + valueOfCode code :=
    add_le_add_left (monotone (Nat.le_sub_one_of_lt lt)) _
  have fromAbove {other : Nat} (lt : code < other) :
      valueOfCode code + valueOfCode (code + 1) ≤
        valueOfCode code + valueOfCode other :=
    add_le_add_right (monotone lt) _
  constructor
  case le_infinity => exact le
  case nearest =>
    intro other otherLe
    rcases Nat.lt_trichotomy other code with lt | rfl | gt
    · rw [abs_sub_high_le_iff (valueOfCode_strictMono lt)]
      exact (fromBelow lt).trans low
    · exact le_rfl
    · rw [abs_sub_low_le_iff (valueOfCode_strictMono gt)]
      exact (high (gt.trans_le otherLe)).trans (fromAbove gt)
  case even =>
    intro other otherLe different same
    apply tie
    rcases Nat.lt_or_gt_of_ne different with lt | gt
    · have middle :=
        (abs_sub_low_le_iff (valueOfCode_strictMono lt)).mp same.le
      exact .inl (low.antisymm (middle.trans (fromBelow lt)))
    · have middle :=
        (abs_sub_high_le_iff (valueOfCode_strictMono gt)).mp same.le
      exact .inr
        ((high (gt.trans_le otherLe)).antisymm
          ((fromAbove gt).trans middle))

/-! ## Rounding leaves no choice -/

/-- Two codes are not both nearest, as another one lies between even codes. -/
theorem not_nearest_of_lt {value : ℚ} {smaller larger : Nat}
    (lt : smaller < larger) (left : Nearest value smaller) :
    ¬ Nearest value larger := by
  intro right
  have apart := valueOfCode_strictMono lt
  have same :=
    (left.nearest larger right.le_infinity).antisymm
      (right.nearest smaller left.le_infinity)
  have leftEven := left.even larger right.le_infinity lt.ne' same.symm
  have rightEven := right.even smaller left.le_infinity lt.ne same
  have next : smaller + 1 < larger := by omega
  have first := valueOfCode_strictMono (Nat.lt_add_one smaller)
  have second := valueOfCode_strictMono next
  have closer :=
    left.nearest (smaller + 1) (next.le.trans right.le_infinity)
  have upToMiddle := (abs_sub_low_le_iff first).mp closer
  have fromMiddle := (abs_sub_high_le_iff apart).mp same.ge
  linarith

theorem nearest_unique {value : ℚ} {code other : Nat}
    (left : Nearest value code) (right : Nearest value other) :
    code = other := by
  rcases Nat.lt_trichotomy code other with lt | same | gt
  · exact absurd right (not_nearest_of_lt lt left)
  · exact same
  · exact absurd left (not_nearest_of_lt gt right)

/-- Rounding keeps the order of values. -/
theorem nearest_mono {less more : ℚ} {lower upper : Nat} (le : less ≤ more)
    (left : Nearest less lower) (right : Nearest more upper) :
    lower ≤ upper := by
  by_contra crossed
  have gt : upper < lower := Nat.lt_of_not_le crossed
  have apart := valueOfCode_strictMono gt
  have fromMiddle :=
    (abs_sub_high_le_iff apart).mp (left.nearest upper right.le_infinity)
  have toMiddle :=
    (abs_sub_low_le_iff apart).mp (right.nearest lower left.le_infinity)
  have same : less = more := by linarith
  rw [same] at left
  exact not_nearest_of_lt gt right left

/-- A value is off from its finite code by half a spacing at most. -/
theorem Nearest.abs_sub_le {value : ℚ} {code : Nat}
    (nearest : Nearest value code) (nonneg : 0 ≤ value)
    (finite : code < infinityCode) :
    |value - valueOfCode code| ≤ spacing code / unitsPerOne / 2 := by
  have step := valueOfCode_succ code
  have next := valueOfCode_strictMono (Nat.lt_add_one code)
  have above := (abs_sub_low_le_iff next).mp (nearest.nearest _ finite)
  rw [abs_sub_le_iff]
  constructor
  · linarith
  · rcases Nat.eq_zero_or_pos code with rfl | positive
    · rw [valueOfCode_zero] at *
      linarith
    · have before := valueOfCode_strictMono (Nat.sub_one_lt positive.ne')
      have stepBefore := valueOfCode_succ (code - 1)
      rw [Nat.sub_add_cancel positive] at stepBefore
      have below :=
        (abs_sub_high_le_iff before).mp
          (nearest.nearest _ ((Nat.sub_le code 1).trans finite.le))
      have gaps :
          (spacing (code - 1) : ℚ) / unitsPerOne ≤
            spacing code / unitsPerOne :=
        div_le_div_of_nonneg_right
          (Nat.cast_le.mpr (spacing_mono (Nat.sub_le code 1)))
          unitsPerOne_cast_pos.le
      linarith

/-- The value of a code is rounded to the code. -/
theorem nearest_valueOfCode {code : Nat} (le : code ≤ infinityCode) :
    Nearest (valueOfCode code) code where
  le_infinity := le
  nearest other _ := by
    rw [sub_self, abs_zero]
    exact abs_nonneg _
  even other _ different same := by
    rw [sub_self, abs_zero, abs_eq_zero, sub_eq_zero] at same
    exact absurd (valueOfCode_strictMono.injective same).symm different

/-! ## Rounding finds the nearest code -/

theorem ends_ofCode (code : Nat) :
    valueOfCode (code - 1) + valueOfCode code =
        (Interval.ofCode code).low / unitsPerOne ∧
      valueOfCode code + valueOfCode (code + 1) =
        (Interval.ofCode code).high / unitsPerOne := by
  simp only [valueOfCode, ← add_div, ← Nat.cast_add]
  exact ⟨rfl, rfl⟩

section

variable {numerator denominator : Nat} (positive : 0 < denominator)
include positive

theorem div_le_double_iff (bound : Nat) :
    (bound : ℚ) / unitsPerOne ≤
        2 * (numerator / (denominator * unitsPerOne)) ↔
      bound * denominator ≤ 2 * numerator := by
  have units_pos := unitsPerOne_cast_pos
  have scale_pos := mul_pos (Nat.cast_pos.mpr positive) units_pos
  rw [← mul_div_assoc, div_le_div_iff₀ units_pos scale_pos, ← mul_assoc,
    mul_le_mul_iff_left₀ units_pos]
  exact_mod_cast Iff.rfl

theorem double_le_div_iff (bound : Nat) :
    2 * (numerator / (denominator * unitsPerOne)) ≤
        (bound : ℚ) / unitsPerOne ↔
      2 * numerator ≤ bound * denominator := by
  have units_pos := unitsPerOne_cast_pos
  have scale_pos := mul_pos (Nat.cast_pos.mpr positive) units_pos
  rw [← mul_div_assoc, div_le_div_iff₀ scale_pos units_pos, ← mul_assoc,
    mul_le_mul_iff_left₀ units_pos]
  exact_mod_cast Iff.rfl

/-- A code is nearest to what its interval holds; infinity ends the codes. -/
theorem nearest_of_holds {code : Nat}
    (holds : (Interval.ofCode code).Holds numerator denominator) :
    Nearest (numerator / (denominator * unitsPerOne))
      (min infinityCode code) := by
  rcases ends_ofCode code with ⟨lowEnd, highEnd⟩
  have low := (div_le_double_iff positive _).mpr holds.low_le
  have high := (double_le_div_iff positive _).mpr holds.le_high
  rcases Nat.lt_or_ge infinityCode code with beyond | le
  · have monotone := valueOfCode_strictMono.monotone
    have first := monotone (Nat.le_sub_one_of_lt beyond)
    have second := monotone (Nat.sub_le infinityCode 1)
    have third := monotone beyond.le
    rw [Nat.min_eq_left beyond.le]
    refine nearest_of_between le_rfl ?_ (absurd · (Nat.lt_irrefl _))
      fun _ => by decide
    linarith
  · rw [Nat.min_eq_right le]
    rw [← lowEnd] at low
    rw [← highEnd] at high
    refine nearest_of_between le low (fun _ => high) fun ends => ?_
    rw [← Interval.closed_ofCode]
    apply holds.closed_of_end
    rcases ends with atLow | atHigh
    · have same := atLow.ge
      rw [lowEnd, double_le_div_iff positive] at same
      exact .inl (holds.low_le.antisymm same)
    · have same := atHigh.ge
      rw [highEnd, div_le_double_iff positive] at same
      exact .inr (holds.le_high.antisymm same)

theorem nearest_nearestCode :
    Nearest (numerator / (denominator * unitsPerOne))
      (nearestCode numerator denominator) := by
  rcases exists_holds numerator positive with ⟨code, holds, nearest⟩
  rw [nearest]
  exact nearest_of_holds positive holds

end

theorem Nearest.lt_signPlace {value : ℚ} {code : Nat}
    (nearest : Nearest value code) : code < signPlace :=
  nearest.le_infinity.trans_lt (by decide)

/-! ## Magnitudes -/

theorem magnitude_le_iff {number other : Binary64} :
    number.magnitude ≤ other.magnitude ↔ number.code ≤ other.code :=
  valueOfCode_strictMono.le_iff_le

theorem value_le_iff_code_le {number other : Binary64}
    (unsigned : number.isNegative = false)
    (otherUnsigned : other.isNegative = false) :
    number.value ≤ other.value ↔ number.code ≤ other.code := by
  rw [value_eq_magnitude unsigned, value_eq_magnitude otherUnsigned,
    magnitude_le_iff]

theorem isFinite_iff {number : Binary64} :
    number.isFinite = true ↔ number.code < infinityCode :=
  decide_eq_true_iff

/-- The product with a whole number is rounded to the nearest number. -/
theorem nearest_scale (factor : Nat) (number : Binary64) :
    Nearest (number.magnitude * factor) (number.scale factor).code := by
  have nearest : Nearest _ (nearestCode (number.units * factor) 1) :=
    nearest_nearestCode Nat.one_pos
  have product :
      ((number.units * factor : Nat) : ℚ) / ((1 : Nat) * unitsPerOne) =
        number.magnitude * factor := by
    rw [Nat.cast_one, one_mul, Nat.cast_mul, magnitude, div_mul_eq_mul_div]
  rw [product] at nearest
  rwa [scale, code_ofCode _ _ nearest.lt_signPlace]

/-- Products with a whole number are in the order of the magnitudes. -/
theorem code_scale_mono {smaller larger : Binary64} (factor : Nat)
    (le : smaller.code ≤ larger.code) :
    (smaller.scale factor).code ≤ (larger.scale factor).code := by
  have magnitudes := magnitude_le_iff.mpr le
  have products :=
    mul_le_mul_of_nonneg_right magnitudes (Nat.cast_nonneg factor)
  exact nearest_mono products (nearest_scale factor smaller)
    (nearest_scale factor larger)

theorem abs_nearestWhole_sub_le (number : Binary64) :
    |(number.nearestWhole : ℚ) - number.magnitude| ≤ 1 / 2 :=
  abs_roundHalfUp_sub_le unitsPerOne_pos

theorem nearestWhole_mono {smaller larger : Binary64}
    (le : smaller.code ≤ larger.code) :
    smaller.nearestWhole ≤ larger.nearestWhole := by
  apply roundHalfUp_le unitsPerOne_pos unitsPerOne_pos
  exact Nat.mul_le_mul_right _ (unitsOfCode_strictMono.monotone le)

end Chip8.Binary64
