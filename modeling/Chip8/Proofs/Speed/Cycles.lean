import Chip8.Proofs.Rounding
import Chip8.Proofs.Speed.Value

/-!
# Cycles of a pulse

The cycles of a pulse are the product of a speed and the normal count, rounded
half up and cut off at the greatest count.  A product, doubled and with the
denominator added, has sixty-six bits at most, so words of twice sixty-four
bits hold whatever the rounding goes through: `wideCycles?_eq_some`.
-/

namespace Chip8.Speed

/-! ## Words of one hundred and twenty-eight bits -/

/-- A result, unless it is too great for a word. -/
def wide? (result : Nat) : Option Nat :=
  if result < 2 ^ 128 then some result else none

/--
The count of cycles by arithmetic on words: there is none if a sum or a
product does not fit in a word, or if the divisor is zero.
-/
def wideCycles? (speed : Speed) (base : UInt32) : Option Nat := do
  let product ← wide? (base.toNat * speed.numerator)
  let doubled ← wide? (2 * product)
  let dividend ← wide? (doubled + speed.denominator)
  let divisor ← wide? (2 * speed.denominator)
  if divisor = 0 then
    none
  else
    some (min greatestCount (dividend / divisor))

theorem mul_numerator_lt (speed : Speed) (base : UInt32) :
    base.toNat * speed.numerator < 2 ^ 64 := by
  have fits := toNat_le_greatestCount base
  have product := Nat.mul_le_mul fits speed.numerator_le
  exact product.trans_lt (by decide)

/-- No word overflows, and no divisor is zero. -/
theorem wideCycles?_eq_some (speed : Speed) (base : UInt32) :
    wideCycles? speed base = some (speed.cycles base) := by
  have product := speed.mul_numerator_lt base
  have denominator_le := speed.denominator_le
  have denominator_pos := speed.denominator_pos
  have wide {result : Nat} (fits : result < 2 ^ 128) :
      wide? result = some result :=
    if_pos fits
  simp only [greatestCount] at denominator_le
  simp only [wideCycles?, Option.bind_eq_bind]
  rw [wide (by omega), Option.bind_some, wide (by omega), Option.bind_some,
    wide (by omega), Option.bind_some, wide (by omega), Option.bind_some,
    if_neg (by omega)]
  rfl

/-! ## The rounded product -/

section

variable (speed : Speed) (base : UInt32)

theorem roundHalfUp_product :
    roundHalfUp (base.toNat * speed.numerator) speed.denominator =
      ⌊base.toNat * speed.value + 1 / 2⌋₊ := by
  rw [roundHalfUp_eq_floor speed.denominator_pos, value, Nat.cast_mul,
    mul_div_assoc]

/--
A count that is not cut off is the only whole number within half a cycle of
the product, the bound from above excluded.
-/
theorem eq_cycles_iff {count : ℤ}
    (fits :
      roundHalfUp (base.toNat * speed.numerator) speed.denominator ≤
        greatestCount) :
    count = speed.cycles base ↔
      (2 * count - 1) * speed.denominator ≤
          2 * base.toNat * speed.numerator ∧
        2 * base.toNat * speed.numerator <
          (2 * count + 1) * speed.denominator := by
  have denominator_pos := speed.denominator_pos
  have below :
      (2 * count - 1) * speed.denominator =
        2 * (count * speed.denominator) - speed.denominator := by ring
  have above :
      (2 * count + 1) * speed.denominator =
        2 * (count * speed.denominator) + speed.denominator := by ring
  rw [below, above, mul_assoc]
  cases count with
  | ofNat count =>
      have rounded :
          roundHalfUp (base.toNat * speed.numerator) _ = count ↔ _ :=
        roundHalfUp_eq_iff denominator_pos
      rw [cycles, Nat.min_eq_right fits]
      simp only [Int.ofNat_eq_natCast]
      omega
  | negSucc before =>
      have negative : Int.negSucc before ≤ -1 := by omega
      have product :=
        mul_le_mul_of_nonneg_right negative
          (Int.natCast_nonneg speed.denominator)
      have scaled := Int.natCast_nonneg (base.toNat * speed.numerator)
      constructor
      · intro same
        omega
      · rintro ⟨_, high⟩
        omega

theorem cycles_eq_zero_iff :
    speed.cycles base = 0 ↔
      2 * (base.toNat * speed.numerator) < speed.denominator := by
  have rounded : roundHalfUp (base.toNat * speed.numerator) _ = 0 ↔ _ :=
    roundHalfUp_eq_iff speed.denominator_pos
  rw [cycles]
  simp only [greatestCount] at *
  omega

end

/-- A greater speed, or a greater normal count, makes no fewer cycles. -/
theorem cycles_le_cycles {slower faster : Speed} {less more : UInt32}
    (speeds : slower.value ≤ faster.value) (bases : less ≤ more) :
    slower.cycles less ≤ faster.cycles more := by
  have counts : less.toNat ≤ more.toNat := UInt32.le_iff_toNat_le.mp bases
  have products :
      less.toNat * slower.numerator * faster.denominator ≤
        more.toNat * faster.numerator * slower.denominator := by
    rw [Nat.mul_assoc, Nat.mul_assoc]
    exact Nat.mul_le_mul counts (value_le_iff.mp speeds)
  have rounded :=
    roundHalfUp_le slower.denominator_pos faster.denominator_pos products
  exact min_le_min_left greatestCount rounded

/--
The cycles of a pulse are the product of the speed and the normal count,
rounded half up and cut off at the greatest count of thirty-two bits; words of
one hundred and twenty-eight bits hold all sums and products on the way.  A
count that is not cut off is the only whole number whose distance to the
product is a half at most, and less than that if it is the smaller one.  A
greater speed or normal count never makes fewer cycles, and there is none
exactly if the product is less than a half.
-/
theorem cycles_round_half_up (speed : Speed) (base : UInt32) :
    let exact : ℚ := base.toNat * speed.value
    speed.cycles base = min greatestCount ⌊exact + 1 / 2⌋₊ ∧
      wideCycles? speed base = some (speed.cycles base) ∧
      (⌊exact + 1 / 2⌋₊ ≤ greatestCount →
        ∀ count : ℤ,
          count = speed.cycles base ↔
            (2 * count - 1) * speed.denominator ≤
                2 * base.toNat * speed.numerator ∧
              2 * base.toNat * speed.numerator <
                (2 * count + 1) * speed.denominator) ∧
      (∀ more, base ≤ more → speed.cycles base ≤ speed.cycles more) ∧
      (∀ faster : Speed, speed.value ≤ faster.value →
        speed.cycles base ≤ faster.cycles base) ∧
      (speed.cycles base = 0 ↔
        2 * base.toNat * speed.numerator < speed.denominator) := by
  intro exact
  have rounded : roundHalfUp _ _ = ⌊exact + 1 / 2⌋₊ :=
    speed.roundHalfUp_product base
  refine ⟨congrArg _ rounded, speed.wideCycles?_eq_some base, ?_,
    fun _ bases => cycles_le_cycles le_rfl bases,
    fun _ speeds => cycles_le_cycles speeds (UInt32.le_refl base), ?_⟩
  · intro fits count
    rw [← rounded] at fits
    exact speed.eq_cycles_iff base fits
  · rw [Nat.mul_assoc]
    exact speed.cycles_eq_zero_iff base

end Chip8.Speed
