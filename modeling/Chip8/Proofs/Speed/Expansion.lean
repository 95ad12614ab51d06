import Chip8.Proofs.Binary64.Reading
import Chip8.Speed.Text
import Mathlib.Data.Nat.Prime.Basic

/-!
# Denominators of decimals that end

Dividing by a factor as long as it divides takes a power of the factor out of
a number, by `exists_pow_mul_withoutFactor`, and leaves a divisor that the
factor does not divide.  With both prime factors of ten taken out, nothing is
left exactly if no other prime divides the denominator, which is to say that
the denominator divides a power of ten.

Over such a denominator every fraction has a decimal that ends; over any other
one no fraction in lowest terms has.
-/

namespace Chip8.Speed

open Binary64

/-! ## Taking out a factor -/

theorem exists_pow_mul_withoutFactor (factor value : Nat) :
    ∃ power, factor ^ power * withoutFactor factor value = value := by
  fun_induction withoutFactor factor value with
  | case1 value divides smaller =>
      rcases smaller with ⟨power, product⟩
      refine ⟨power + 1, ?_⟩
      rw [pow_succ', mul_assoc, product]
      exact Nat.mul_div_cancel' (Nat.dvd_of_mod_eq_zero divides.2.2)
  | case2 value _ => exact ⟨0, by rw [pow_zero, one_mul]⟩

theorem withoutFactor_dvd (factor value : Nat) :
    withoutFactor factor value ∣ value := by
  rcases exists_pow_mul_withoutFactor factor value with ⟨power, product⟩
  exact Dvd.intro_left _ product

theorem dvd_withoutFactor_or (factor : Nat) {prime value : Nat}
    (isPrime : prime.Prime) (divides : prime ∣ value) :
    prime ∣ withoutFactor factor value ∨ prime ∣ factor := by
  rcases exists_pow_mul_withoutFactor factor value with ⟨power, product⟩
  rw [← product, isPrime.dvd_mul] at divides
  rcases divides with taken | left
  · exact .inr (isPrime.dvd_of_dvd_pow taken)
  · exact .inl left

theorem not_dvd_withoutFactor {factor value : Nat} (large : 1 < factor)
    (positive : 0 < value) :
    ¬ factor ∣ withoutFactor factor value := by
  fun_induction withoutFactor factor value with
  | case1 value whole smaller =>
      have le := Nat.le_of_dvd positive (Nat.dvd_of_mod_eq_zero whole.2.2)
      exact smaller (Nat.div_pos le (Nat.zero_lt_of_lt large))
  | case2 value stop =>
      intro divides
      exact stop ⟨large, positive, Nat.mod_eq_zero_of_dvd divides⟩

/-! ## Both factors of ten -/

/-- Decimals end for the denominators without further prime factors. -/
theorem endsInDecimal_iff {denominator : Nat} (positive : 0 < denominator) :
    endsInDecimal denominator = true ↔
      ∀ prime : Nat, prime.Prime → prime ∣ denominator →
        prime = 2 ∨ prime = 5 := by
  rw [endsInDecimal, decide_eq_true_iff]
  constructor
  · intro nothing prime isPrime divides
    rcases dvd_withoutFactor_or 2 isPrime divides with odd | even
    · rcases dvd_withoutFactor_or 5 isPrime odd with one | five
      · rw [nothing] at one
        exact absurd one isPrime.not_dvd_one
      · rw [Nat.prime_dvd_prime_iff_eq isPrime Nat.prime_five] at five
        exact .inr five
    · rw [Nat.prime_dvd_prime_iff_eq isPrime Nat.prime_two] at even
      exact .inl even
  · intro only
    by_contra more
    rcases Nat.exists_prime_and_dvd more with ⟨prime, isPrime, divides⟩
    have odd := divides.trans (withoutFactor_dvd _ _)
    have whole := odd.trans (withoutFactor_dvd _ _)
    have odd_pos :=
      Nat.pos_of_dvd_of_pos (withoutFactor_dvd 2 denominator) positive
    rcases only prime isPrime whole with rfl | rfl
    · exact not_dvd_withoutFactor (by decide) positive odd
    · exact not_dvd_withoutFactor (by decide) odd_pos divides

/-- These are the denominators that divide a power of ten. -/
theorem endsInDecimal_iff_exists_dvd {denominator : Nat}
    (positive : 0 < denominator) :
    endsInDecimal denominator = true ↔
      ∃ places, denominator ∣ 10 ^ places := by
  constructor
  · intro ends
    rw [endsInDecimal, decide_eq_true_iff] at ends
    rcases exists_pow_mul_withoutFactor 2 denominator with ⟨twos, whole⟩
    rcases exists_pow_mul_withoutFactor 5 (withoutFactor 2 denominator) with
      ⟨fives, odd⟩
    rw [ends, mul_one] at odd
    refine ⟨twos + fives, ?_⟩
    rw [← whole, ← odd, pow_add]
    exact mul_dvd_mul (pow_dvd_pow_of_dvd (by decide) twos)
      (pow_dvd_pow_of_dvd (by decide) fives)
  · rintro ⟨places, power⟩
    rw [endsInDecimal_iff positive]
    intro prime isPrime divides
    have ten : prime ∣ 2 * 5 := isPrime.dvd_of_dvd_pow (divides.trans power)
    rwa [isPrime.dvd_mul, Nat.prime_dvd_prime_iff_eq isPrime Nat.prime_two,
      Nat.prime_dvd_prime_iff_eq isPrime Nat.prime_five] at ten

/-! ## Decimals of fractions -/

/-- Whether a value can be written out as a decimal, to the last digit. -/
def HasDecimal (value : ℚ) : Prop :=
  ∃ (text : List Char) (coefficient places : Nat),
    Mantissa text coefficient places ∧
      (coefficient : ℚ) / 10 ^ places = value

theorem hasDecimal_div_pow (coefficient places : Nat) :
    HasDecimal (coefficient / 10 ^ places) := by
  rcases mantissa_positional ⟨coefficient, -places⟩ with
    ⟨written, behind, digits, value⟩
  refine ⟨_, written, behind, digits, ?_⟩
  rwa [Decimal.value, zpow_neg, zpow_neg, zpow_natCast, zpow_natCast,
    ← div_eq_mul_inv, ← div_eq_mul_inv] at value

section

variable {denominator : Nat} (positive : 0 < denominator)
include positive

/-- Every fraction can be extended to tenths, hundredths and so on. -/
theorem hasDecimal_of_endsInDecimal
    (ends : endsInDecimal denominator = true) (numerator : Nat) :
    HasDecimal (numerator / denominator) := by
  rw [endsInDecimal_iff_exists_dvd positive] at ends
  rcases ends with ⟨places, factor, power⟩
  have extended :
      (numerator : ℚ) / denominator =
        (numerator * factor : Nat) / 10 ^ places := by
    have nonzero : (denominator : ℚ) ≠ 0 := Nat.cast_ne_zero.mpr positive.ne'
    have ten_pow : (10 : ℚ) ^ places = denominator * factor := by
      exact_mod_cast power
    rw [div_eq_div_iff nonzero (by positivity), ten_pow, Nat.cast_mul]
    ring
  rw [extended]
  exact hasDecimal_div_pow _ _

/-- Of the fractions in lowest terms, one decimal that ends is enough. -/
theorem endsInDecimal_of_hasDecimal {numerator : Nat}
    (coprime : Nat.Coprime numerator denominator)
    (decimal : HasDecimal (numerator / denominator)) :
    endsInDecimal denominator = true := by
  rcases decimal with ⟨text, coefficient, places, -, value⟩
  have nonzero : (denominator : ℚ) ≠ 0 := Nat.cast_ne_zero.mpr positive.ne'
  rw [div_eq_div_iff (by positivity) nonzero] at value
  have product : coefficient * denominator = numerator * 10 ^ places := by
    exact_mod_cast value
  rw [endsInDecimal_iff_exists_dvd positive]
  have divides : denominator ∣ numerator * 10 ^ places :=
    Dvd.intro_left coefficient product
  exact ⟨places, coprime.symm.dvd_of_dvd_mul_left divides⟩

theorem endsInDecimal_iff_hasDecimal {numerator : Nat}
    (coprime : Nat.Coprime numerator denominator) :
    endsInDecimal denominator = true ↔
      HasDecimal (numerator / denominator) :=
  ⟨fun ends => hasDecimal_of_endsInDecimal positive ends numerator,
    endsInDecimal_of_hasDecimal positive coprime⟩

end

end Chip8.Speed
