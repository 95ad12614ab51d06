import Chip8.Binary64.Decimal
import Chip8.Proofs.Binary64.Rounding
import Chip8.Proofs.Text.Numeral

/-!
# Decimals are rounded to the nearest number

A decimal is rounded to the number nearest to its exact value, however many
digits it has, by `nearest_ofDecimal`.  The two shortcuts for values out of
reach keep to this: what starts too far before the point is beyond all finite
numbers, and what starts too far behind it is below half of the smallest one.
-/

namespace Chip8.Binary64

/-! ## Values out of reach -/

theorem nearest_zero {value : ℚ} (nonneg : 0 ≤ value)
    (small : 2 * value < valueOfCode 1) : Nearest value 0 := by
  refine nearest_of_between (Nat.zero_le _) ?_ (fun _ => ?_) fun _ => rfl
  · rw [valueOfCode_zero]
    linarith
  · rw [valueOfCode_zero, zero_add]
    exact small.le

theorem nearest_infinity {value : ℚ}
    (large : valueOfCode infinityCode ≤ value) :
    Nearest value infinityCode := by
  have before :=
    valueOfCode_strictMono.monotone (Nat.sub_le infinityCode 1)
  refine nearest_of_between le_rfl ?_ (absurd · (Nat.lt_irrefl _))
    fun _ => by decide
  linarith

/-- No finite number has more than three hundred and ten whole places. -/
theorem valueOfCode_infinityCode_le :
    valueOfCode infinityCode ≤ 10 ^ 310 := by
  have place : infinityCode = 2046 * fractionCount + fractionCount := by
    decide
  have units : unitsOfCode infinityCode ≤ 10 ^ 310 * unitsPerOne := by
    rw [place, unitsOfCode_first]
    decide +kernel
  rw [valueOfCode, div_le_iff₀ unitsPerOne_cast_pos]
  exact_mod_cast units

/-- The least number has fewer than three hundred and thirty empty places. -/
theorem le_valueOfCode_one : 2 * (10 : ℚ) ^ (-330 : Int) < valueOfCode 1 := by
  have units : 2 * unitsPerOne < 10 ^ 330 := by
    decide +kernel
  have power_pos : (0 : ℚ) < 10 ^ (330 : Int) := zpow_pos (by norm_num) _
  rw [valueOfCode, unitsOfCode_of_lt (by decide), zpow_neg,
    ← div_eq_mul_inv, div_lt_div_iff₀ power_pos unitsPerOne_cast_pos,
    Nat.cast_one, one_mul]
  exact_mod_cast units

section

variable (coefficient : Nat) (exponent : Int)

/-- The count of places up to the first digit bounds a decimal from above. -/
theorem decimal_lt :
    (coefficient : ℚ) * 10 ^ exponent <
      10 ^ ((Nat.toDigits 10 coefficient).length + exponent) := by
  rw [zpow_add₀ (by norm_num), zpow_natCast]
  apply mul_lt_mul_of_pos_right _ (zpow_pos (by norm_num) _)
  exact_mod_cast Numeral.lt_pow_length coefficient

/-- And from below, by one place less. -/
theorem le_decimal (nonzero : coefficient ≠ 0) :
    10 ^ ((Nat.toDigits 10 coefficient).length - 1 + exponent) ≤
      (coefficient : ℚ) * 10 ^ exponent := by
  have length_pos := Nat.length_toDigits_pos (b := 10) (n := coefficient)
  have places :
      ((Nat.toDigits 10 coefficient).length : Int) - 1 =
        ((Nat.toDigits 10 coefficient).length - 1 : Nat) := by
    omega
  rw [zpow_add₀ (by norm_num), places, zpow_natCast]
  apply mul_le_mul_of_nonneg_right _ (zpow_pos (by norm_num) _).le
  exact_mod_cast Numeral.pow_length_pred_le nonzero

end

/-! ## Values in reach -/

theorem nearest_ofRatio (numerator : Nat) {denominator : Nat}
    (positive : 0 < denominator) :
    ∃ code,
      ofRatio numerator denominator = ofCode false code ∧
        Nearest (numerator / denominator) code := by
  refine ⟨_, rfl, ?_⟩
  have nearest : Nearest _ (nearestCode (numerator * unitsPerOne) _) :=
    nearest_nearestCode positive
  rwa [Nat.cast_mul, mul_div_mul_right _ _ unitsPerOne_cast_pos.ne']
    at nearest

/-- A decimal is rounded to the number nearest to its value. -/
theorem nearest_ofDecimal (coefficient : Nat) (exponent : Int) :
    ∃ code,
      ofDecimal coefficient exponent = ofCode false code ∧
        Nearest (coefficient * 10 ^ exponent) code := by
  have ten : (1 : ℚ) ≤ 10 := by norm_num
  have value_nonneg : 0 ≤ (coefficient : ℚ) * 10 ^ exponent :=
    mul_nonneg (Nat.cast_nonneg _) (zpow_nonneg (by norm_num) _)
  simp only [ofDecimal]
  split
  next small =>
    refine ⟨0, rfl, nearest_zero value_nonneg ?_⟩
    rcases small with rfl | far
    · rw [Nat.cast_zero, zero_mul, mul_zero, ← valueOfCode_zero]
      exact valueOfCode_strictMono Nat.zero_lt_one
    · have start := zpow_le_zpow_right₀ ten far.le
      have least := le_valueOfCode_one
      linarith [decimal_lt coefficient exponent]
  next within =>
    rw [not_or] at within
    split
    next far =>
      refine ⟨infinityCode, rfl, nearest_infinity ?_⟩
      have places : (310 : Int) ≤
          (Nat.toDigits 10 coefficient).length - 1 + exponent := by
        omega
      exact valueOfCode_infinityCode_le.trans
        ((zpow_le_zpow_right₀ ten places).trans
          (le_decimal coefficient exponent within.1))
    next =>
      split
      next whole =>
        rcases Int.eq_ofNat_of_zero_le whole with ⟨power, rfl⟩
        have nearest :=
          nearest_ofRatio (coefficient * Nat.pow 10 power) Nat.one_pos
        rw [Nat.cast_one, div_one, Nat.cast_mul, Nat.pow_eq, Nat.cast_pow]
          at nearest
        exact nearest
      next fraction =>
        rcases Int.eq_negSucc_of_lt_zero (Int.lt_of_not_ge fraction) with
          ⟨power, rfl⟩
        have nearest :=
          nearest_ofRatio coefficient
            (Nat.pow_pos (by decide) : 0 < Nat.pow 10 (power + 1))
        rw [Nat.cast_pow, div_eq_mul_inv] at nearest
        rw [zpow_negSucc]
        exact nearest

end Chip8.Binary64
