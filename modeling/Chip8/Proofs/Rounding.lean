import Chip8.Rounding
import Mathlib.Algebra.Order.Floor.Semifield
import Mathlib.Algebra.Order.Ring.Nat
import Mathlib.Data.Rat.Floor
import Mathlib.Tactic.Linarith

/-!
# Rounding half up

A whole number is not above a rounded quotient if it exceeds the quotient by a
half at most, `le_roundHalfUp_iff`.  So `roundHalfUp_eq_iff` finds the rounded
quotient between two bounds a unit apart, the lower of which belongs to it,
and `roundHalfUp_le` orders the roundings of ordered quotients.
-/

namespace Chip8

section

variable {numerator denominator whole : Nat} (positive : 0 < denominator)
include positive

theorem le_roundHalfUp_iff :
    whole ≤ roundHalfUp numerator denominator ↔
      2 * (whole * denominator) ≤ 2 * numerator + denominator := by
  have divisor_pos := Nat.mul_pos Nat.zero_lt_two positive
  rw [roundHalfUp, Nat.le_div_iff_mul_le divisor_pos, Nat.mul_left_comm]

/-- A quotient is rounded to the whole number less than a half away from it. -/
theorem roundHalfUp_eq_iff :
    roundHalfUp numerator denominator = whole ↔
      2 * (whole * denominator) ≤ 2 * numerator + denominator ∧
        2 * numerator < 2 * (whole * denominator) + denominator := by
  have next := Nat.add_one_mul whole denominator
  have reached : whole ≤ roundHalfUp numerator denominator ↔ _ :=
    le_roundHalfUp_iff positive
  have passed : whole + 1 ≤ roundHalfUp numerator denominator ↔ _ :=
    le_roundHalfUp_iff positive
  omega

theorem roundHalfUp_eq_floor :
    roundHalfUp numerator denominator =
      ⌊(numerator : ℚ) / denominator + 1 / 2⌋₊ := by
  have nonzero : (denominator : ℚ) ≠ 0 :=
    Nat.cast_ne_zero.mpr positive.ne'
  have quotient :
      (numerator : ℚ) / denominator + 1 / 2 =
        ((2 * numerator + denominator : Nat) : ℚ) /
          (2 * denominator : Nat) := by
    push_cast
    field_simp
  rw [quotient, Nat.floor_div_eq_div, roundHalfUp]

theorem abs_roundHalfUp_sub_le :
    |(roundHalfUp numerator denominator : ℚ) - numerator / denominator| ≤
      1 / 2 := by
  have denominator_pos : (0 : ℚ) < denominator := Nat.cast_pos.mpr positive
  rcases (roundHalfUp_eq_iff positive).mp rfl with ⟨low, high⟩
  have lowCast :
      2 * ((roundHalfUp numerator denominator : ℚ) * denominator) ≤
        2 * numerator + denominator := by
    exact_mod_cast low
  have highCast :
      (2 * numerator : ℚ) ≤
        2 * (roundHalfUp numerator denominator * denominator) +
          denominator := by
    exact_mod_cast high.le
  have exact : (numerator : ℚ) / denominator * denominator = numerator :=
    div_mul_cancel₀ _ denominator_pos.ne'
  rw [abs_sub_le_iff]
  constructor
  · apply le_of_mul_le_mul_right _ denominator_pos
    rw [sub_mul, exact]
    linarith
  · apply le_of_mul_le_mul_right _ denominator_pos
    rw [sub_mul, exact]
    linarith

end

/-- A quotient that is not greater is not rounded to a greater number. -/
theorem roundHalfUp_le {numerator denominator : Nat}
    {numerator' denominator' : Nat} (positive : 0 < denominator)
    (positive' : 0 < denominator')
    (ordered : numerator * denominator' ≤ numerator' * denominator) :
    roundHalfUp numerator denominator ≤
      roundHalfUp numerator' denominator' := by
  obtain ⟨whole, rounded⟩ :
      ∃ whole, whole = roundHalfUp numerator denominator :=
    ⟨_, rfl⟩
  have reached := (le_roundHalfUp_iff positive).mp rounded.le
  rw [← rounded, le_roundHalfUp_iff positive']
  apply Nat.le_of_mul_le_mul_right _ positive
  calc
    2 * (whole * denominator') * denominator =
        2 * (whole * denominator) * denominator' := by ring
    _ ≤ (2 * numerator + denominator) * denominator' :=
      Nat.mul_le_mul_right _ reached
    _ = 2 * (numerator * denominator') + denominator' * denominator := by
      ring
    _ ≤ 2 * (numerator' * denominator) + denominator' * denominator := by
      omega
    _ = (2 * numerator' + denominator') * denominator := by ring

end Chip8
