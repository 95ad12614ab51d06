import Chip8.Proofs.Binary64.Codes
import Mathlib.Algebra.Order.Field.Rat
import Mathlib.Data.Nat.Cast.Order.Field

/-!
# The values of floating-point numbers

A finite number has a value among the rationals; both zeros have the value
zero.  `whole?_eq_some_iff` and `value_eq_natCast_iff` say when a value is a
natural number, by its magnitude and its sign.
-/

namespace Chip8.Binary64

/-- How far a finite number is away from zero. -/
def magnitude (number : Binary64) : ℚ :=
  number.units / unitsPerOne

/-- The value of a finite number. -/
def value (number : Binary64) : ℚ :=
  if number.isNegative then -number.magnitude else number.magnitude

theorem magnitude_nonneg (number : Binary64) : 0 ≤ number.magnitude :=
  div_nonneg (Nat.cast_nonneg _) (Nat.cast_nonneg _)

theorem value_eq_magnitude {number : Binary64}
    (unsigned : number.isNegative = false) :
    number.value = number.magnitude := by
  rw [value, unsigned, if_neg Bool.false_ne_true]

theorem isNegative_eq_false {number : Binary64}
    (positive : 0 < number.value) : number.isNegative = false := by
  rw [← Bool.not_eq_true]
  intro negative
  rw [value, if_pos negative, neg_pos] at positive
  exact positive.not_ge number.magnitude_nonneg

theorem magnitude_eq_natCast_iff {number : Binary64} {whole : Nat} :
    number.magnitude = whole ↔ number.units = whole * unitsPerOne := by
  have nonzero : (unitsPerOne : ℚ) ≠ 0 :=
    Nat.cast_ne_zero.mpr unitsPerOne_pos.ne'
  rw [magnitude, div_eq_iff nonzero, ← Nat.cast_mul, Nat.cast_inj]

/-- A whole number is read off a finite number with this magnitude. -/
theorem whole?_eq_some_iff {number : Binary64} {whole : Nat} :
    number.whole? = some whole ↔
      number.isFinite = true ∧ number.magnitude = whole := by
  rw [magnitude_eq_natCast_iff, whole?]
  constructor
  · intro read
    split at read
    next exact =>
      simp only [Bool.and_eq_true, decide_eq_true_eq] at exact
      cases read
      have divides := Nat.dvd_of_mod_eq_zero exact.2
      exact ⟨exact.1, (Nat.div_mul_cancel divides).symm⟩
    next => cases read
  · rintro ⟨finite, units⟩
    have exact : number.units % unitsPerOne = 0 := by
      rw [units]
      exact Nat.mul_mod_left whole unitsPerOne
    rw [finite, Bool.true_and, if_pos (decide_eq_true exact), units,
      Nat.mul_div_cancel whole unitsPerOne_pos]

/-- Of the natural numbers only zero is the value of a negative number. -/
theorem value_eq_natCast_iff {number : Binary64} {whole : Nat} :
    number.value = whole ↔
      number.magnitude = whole ∧
        (number.isNegative = false ∨ whole = 0) := by
  rw [value]
  cases number.isNegative with
  | false => simp only [Bool.false_eq_true, if_false, true_or, and_true]
  | true =>
      simp only [if_true, Bool.true_eq_false, false_or]
      constructor
      · intro negated
        have nonpos : number.magnitude ≤ 0 := by
          rw [← neg_nonneg, negated]
          exact Nat.cast_nonneg whole
        have zero := le_antisymm nonpos number.magnitude_nonneg
        rw [zero, neg_zero, eq_comm, Nat.cast_eq_zero] at negated
        rw [zero, negated]
        exact ⟨Nat.cast_zero.symm, rfl⟩
      · rintro ⟨magnitude, rfl⟩
        rw [magnitude, Nat.cast_zero, neg_zero]

end Chip8.Binary64
