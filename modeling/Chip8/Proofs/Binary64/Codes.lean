import Chip8.Binary64.Basic
import Mathlib.Algebra.Order.Ring.Nat
import Mathlib.Tactic.Ring

/-!
# Codes and magnitudes

Every code has one place in a binade: an exponent, and a mantissa below twice
the count of fractions, which is full unless the exponent is zero.  Within a
binade the magnitudes are the multiples of one spacing, by
`unitsOfCode_binade`, and `unitsOfCode_succ` carries on to the next one.

From there on codes are compared by their spacings, which never shrink, and
which are small in relation to the magnitude: a full mantissa has fifty-two
bits behind the leading one.
-/

namespace Chip8.Binary64

/-- The distance from the magnitude of a code to the next one. -/
def spacing (code : Nat) : Nat :=
  Nat.pow 2 (code / fractionCount - 1)

theorem unitsPerOne_pos : 0 < unitsPerOne := by
  decide +kernel

/-- A mantissa with its leading bit, or without one in the first binade. -/
def Full (exponent mantissa : Nat) : Prop :=
  exponent = 0 ∨ fractionCount ≤ mantissa

/-! ## Binades -/

theorem exists_binade (code : Nat) :
    ∃ exponent mantissa,
      code = exponent * fractionCount + mantissa ∧
        Full exponent mantissa ∧ mantissa < 2 * fractionCount := by
  refine ⟨code / fractionCount - 1,
    code - (code / fractionCount - 1) * fractionCount, ?_⟩
  simp only [Full, fractionCount]
  omega

theorem div_binade {exponent mantissa : Nat} (full : Full exponent mantissa)
    (lt : mantissa < 2 * fractionCount) :
    (exponent * fractionCount + mantissa) / fractionCount - 1 =
      exponent := by
  simp only [Full, fractionCount] at *
  omega

theorem spacing_binade {exponent mantissa : Nat}
    (full : Full exponent mantissa) (lt : mantissa < 2 * fractionCount) :
    spacing (exponent * fractionCount + mantissa) = Nat.pow 2 exponent := by
  rw [spacing, div_binade full lt]

/--
The magnitudes of a binade.  A mantissa of twice the count of fractions is the
first of the next binade, and has the same magnitude there.
-/
theorem unitsOfCode_binade {exponent mantissa : Nat}
    (full : Full exponent mantissa) (le : mantissa ≤ 2 * fractionCount) :
    unitsOfCode (exponent * fractionCount + mantissa) =
      mantissa * Nat.pow 2 exponent := by
  unfold unitsOfCode
  split
  next small =>
    have first : exponent = 0 := by
      simp only [fractionCount] at small
      omega
    subst first
    rw [Nat.zero_mul, Nat.zero_add]
    exact (Nat.mul_one mantissa).symm
  next large =>
    rcases Nat.lt_or_eq_of_le le with lt | rfl
    · have remainder :
          (exponent * fractionCount + mantissa) % fractionCount +
            fractionCount = mantissa := by
        simp only [Full, fractionCount] at *
        omega
      rw [div_binade full lt, remainder]
    · have code :
          exponent * fractionCount + 2 * fractionCount =
            (exponent + 2) * fractionCount :=
        (Nat.add_mul _ _ _).symm
      rw [code, Nat.mul_mod_left, Nat.mul_div_cancel _ (by decide)]
      change (0 + fractionCount) * 2 ^ (exponent + 1) = _ * 2 ^ exponent
      ring

/-- The first magnitude of a binade. -/
theorem unitsOfCode_first (exponent : Nat) :
    unitsOfCode (exponent * fractionCount + fractionCount) =
      fractionCount * Nat.pow 2 exponent :=
  unitsOfCode_binade (.inr (Nat.le_refl _)) (by decide)

theorem unitsOfCode_of_lt {code : Nat} (first : code < fractionCount) :
    unitsOfCode code = code :=
  if_pos first

/-! ## Spacings -/

theorem spacing_of_lt {code : Nat} (first : code < fractionCount) :
    spacing code = 1 := by
  rw [spacing, Nat.div_eq_of_lt first]

theorem unitsOfCode_succ (code : Nat) :
    unitsOfCode (code + 1) = unitsOfCode code + spacing code := by
  rcases exists_binade code with ⟨exponent, mantissa, rfl, full, lt⟩
  have fullNext : Full exponent (mantissa + 1) :=
    full.imp_right Nat.le_succ_of_le
  rw [spacing_binade full lt, unitsOfCode_binade full lt.le, Nat.add_assoc,
    unitsOfCode_binade fullNext lt, Nat.succ_mul]

theorem spacing_pos (code : Nat) : 0 < spacing code :=
  Nat.pow_pos Nat.zero_lt_two

theorem spacing_mono {smaller larger : Nat} (le : smaller ≤ larger) :
    spacing smaller ≤ spacing larger := by
  apply Nat.pow_le_pow_right Nat.zero_lt_two
  exact Nat.sub_le_sub_right (Nat.div_le_div_right le) 1

theorem le_spacing_binade {exponent mantissa : Nat}
    (full : Full exponent mantissa) (le : mantissa ≤ 2 * fractionCount) :
    Nat.pow 2 exponent ≤ spacing (exponent * fractionCount + mantissa) := by
  rcases Nat.lt_or_eq_of_le le with lt | rfl
  · exact (spacing_binade full lt).ge
  · have fullBefore : Full exponent (2 * fractionCount - 1) :=
      .inr (by decide)
    rw [← spacing_binade fullBefore (by decide)]
    exact spacing_mono (Nat.add_le_add_left (Nat.sub_le _ _) _)

theorem unitsOfCode_strictMono : StrictMono unitsOfCode := by
  apply strictMono_nat_of_lt_succ
  intro code
  rw [unitsOfCode_succ]
  exact Nat.lt_add_of_pos_right (spacing_pos code)

theorem unitsOfCode_pos {code : Nat} (positive : 0 < code) :
    0 < unitsOfCode code :=
  Nat.zero_lt_of_lt (unitsOfCode_strictMono positive)

/-- A full magnitude has at least as many spacings as there are fractions. -/
theorem fractionCount_mul_spacing_le {code : Nat}
    (normal : fractionCount ≤ code) :
    fractionCount * spacing code ≤ unitsOfCode code := by
  rcases exists_binade code with ⟨exponent, mantissa, rfl, full, lt⟩
  rw [spacing_binade full lt, unitsOfCode_binade full lt.le]
  apply Nat.mul_le_mul_right
  rcases full with rfl | full
  · rwa [Nat.zero_mul, Nat.zero_add] at normal
  · exact full

theorem unitsOfCode_lt_mul_spacing (code : Nat) :
    unitsOfCode code < 2 * fractionCount * spacing code := by
  rcases exists_binade code with ⟨exponent, mantissa, rfl, full, lt⟩
  rw [spacing_binade full lt, unitsOfCode_binade full lt.le]
  exact Nat.mul_lt_mul_of_pos_right lt (Nat.pow_pos Nat.zero_lt_two)

/--
Below a magnitude the spacing is the same, unless the magnitude is the first
of its binade and has no more spacings than there are fractions.
-/
theorem spacing_pred (code : Nat) :
    spacing (code - 1) = spacing code ∨
      unitsOfCode code = fractionCount * spacing code := by
  rcases exists_binade code with ⟨exponent, mantissa, rfl, full, lt⟩
  by_cases first : mantissa = fractionCount
  · refine .inr ?_
    rw [spacing_binade full lt, unitsOfCode_binade full lt.le, first]
  · refine .inl ?_
    have position :
        (exponent * fractionCount + mantissa - 1) / fractionCount - 1 =
          exponent := by
      simp only [Full, fractionCount] at *
      omega
    rw [spacing_binade full lt, spacing, position]

/-! ## Finite numbers -/

section

variable (negative : Bool) {code : Nat} (finite : code < infinityCode)
include finite

theorem lt_signPlace : code < signPlace :=
  finite.trans (by decide)

theorem isFinite_ofCode : (ofCode negative code).isFinite = true := by
  rw [isFinite, code_ofCode negative code (lt_signPlace finite)]
  exact decide_eq_true finite

theorem isNaN_ofCode : (ofCode negative code).isNaN = false := by
  rw [isNaN, code_ofCode negative code (lt_signPlace finite)]
  exact decide_eq_false (Nat.not_lt_of_gt finite)

theorem isZero_ofCode (positive : 0 < code) :
    (ofCode negative code).isZero = false := by
  rw [isZero, code_ofCode negative code (lt_signPlace finite)]
  exact decide_eq_false positive.ne'

end

end Chip8.Binary64
