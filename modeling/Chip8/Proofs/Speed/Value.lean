import Chip8.Speed.Basic
import Mathlib.Algebra.Order.Field.Rat
import Mathlib.Data.Nat.Cast.Order.Field
import Mathlib.Data.Nat.GCD.Basic

/-!
# The values of speeds

A speed has a value among the rationals.  Values are compared by the cross
products of their parts, and lowest terms make a speed of its value: speeds
with the same value are the same, and `ofRatio_of_cross` finds the speed with
the value of a given ratio.
-/

namespace Chip8.Speed

/-! ## Equal ratios -/

theorem eq_of_cross {left right : Speed}
    (cross :
      left.numerator * right.denominator =
        right.numerator * left.denominator) :
    left = right := by
  have upper : left.numerator ∣ right.numerator * left.denominator :=
    ⟨_, cross.symm⟩
  have lower : right.numerator ∣ left.numerator * right.denominator :=
    ⟨_, cross⟩
  have numerators :=
    Nat.dvd_antisymm (left.coprime.dvd_of_dvd_mul_right upper)
      (right.coprime.dvd_of_dvd_mul_right lower)
  rw [numerators] at cross
  exact ext numerators
    (Nat.eq_of_mul_eq_mul_left right.numerator_pos cross).symm

theorem toNat_ofNat {part : Nat} (le : part ≤ greatestCount) :
    (UInt32.ofNat part).toNat = part :=
  UInt32.toNat_ofNat_of_lt' (Nat.lt_succ_of_le le)

/-- A speed is made of any ratio that has its value. -/
theorem ofRatio_of_cross {speed : Speed} {numerator denominator : Nat}
    (positive : 0 < denominator) (numerator_le : numerator ≤ greatestCount)
    (denominator_le : denominator ≤ greatestCount)
    (cross :
      speed.numerator * denominator = numerator * speed.denominator) :
    ofRatio (.ofNat numerator) (.ofNat denominator) = .ok speed := by
  have numerator_eq := toNat_ofNat numerator_le
  have denominator_eq := toNat_ofNat denominator_le
  have product := Nat.mul_pos speed.numerator_pos positive
  rw [cross] at product
  have made :=
    (ofRatio_eq_ok_iff (.ofNat numerator) (.ofNat denominator)).mpr
      (by
        rw [numerator_eq, denominator_eq]
        exact ⟨Nat.pos_of_mul_pos_right product, positive⟩)
  rcases made with ⟨other, made⟩
  have value := ofRatio_cross made
  rw [numerator_eq, denominator_eq] at value
  rw [made]
  apply congrArg Except.ok
  apply eq_of_cross
  apply Nat.eq_of_mul_eq_mul_right positive
  rw [Nat.mul_right_comm, value, Nat.mul_right_comm, ← cross,
    Nat.mul_right_comm]

/-- A speed is made of its own parts. -/
theorem ofRatio_parts (speed : Speed) :
    ofRatio (.ofNat speed.numerator) (.ofNat speed.denominator) =
      .ok speed :=
  ofRatio_of_cross speed.denominator_pos speed.numerator_le
    speed.denominator_le rfl

/-! ## Values -/

/-- The number by which a speed multiplies. -/
def value (speed : Speed) : ℚ :=
  speed.numerator / speed.denominator

theorem quotient_eq_iff {numerator denominator numerator' denominator' : Nat}
    (positive : 0 < denominator) (positive' : 0 < denominator') :
    (numerator : ℚ) / denominator = numerator' / denominator' ↔
      numerator * denominator' = numerator' * denominator := by
  have nonzero : (denominator : ℚ) ≠ 0 :=
    Nat.cast_ne_zero.mpr positive.ne'
  have nonzero' : (denominator' : ℚ) ≠ 0 :=
    Nat.cast_ne_zero.mpr positive'.ne'
  rw [div_eq_div_iff nonzero nonzero']
  exact_mod_cast Iff.rfl

theorem value_of_ofRatio {numerator denominator : UInt32} {speed : Speed}
    (made : ofRatio numerator denominator = .ok speed) :
    speed.value = numerator.toNat / denominator.toNat := by
  have positive := (ofRatio_eq_ok_iff numerator denominator).mp ⟨speed, made⟩
  rw [value, quotient_eq_iff speed.denominator_pos positive.2]
  exact ofRatio_cross made

/-- Every ratio of positive parts is the value of a speed. -/
theorem exists_ofRatio {numerator denominator : UInt32}
    (numerator_pos : 0 < numerator.toNat)
    (denominator_pos : 0 < denominator.toNat) :
    ∃ speed,
      ofRatio numerator denominator = .ok speed ∧
        speed.value = (numerator.toNat : ℚ) / denominator.toNat := by
  rcases (ofRatio_eq_ok_iff numerator denominator).mpr
    ⟨numerator_pos, denominator_pos⟩ with ⟨speed, made⟩
  exact ⟨speed, made, value_of_ofRatio made⟩

/-- Speeds with the same value are the same speed. -/
theorem value_inj {left right : Speed} :
    left.value = right.value ↔ left = right := by
  constructor
  · intro values
    apply eq_of_cross
    exact (quotient_eq_iff left.denominator_pos right.denominator_pos).mp
      values
  · intro same
    rw [same]

/-- Values are in the order of the cross products. -/
theorem value_le_iff {left right : Speed} :
    left.value ≤ right.value ↔
      left.numerator * right.denominator ≤
        right.numerator * left.denominator := by
  have left_pos : (0 : ℚ) < left.denominator :=
    Nat.cast_pos.mpr left.denominator_pos
  have right_pos : (0 : ℚ) < right.denominator :=
    Nat.cast_pos.mpr right.denominator_pos
  rw [value, value, div_le_div_iff₀ left_pos right_pos]
  exact_mod_cast Iff.rfl

end Chip8.Speed
