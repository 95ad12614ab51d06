import Chip8.Proofs.Binary64.Grammar
import Chip8.Proofs.Binary64.Shortest

/-!
# Reading texts of numbers

A decimal in the interval of a code is nearest to the number with that code.
Its positional text spells out its value, so it denotes the number, and a
number is read from its own text by `ofText_text`.
-/

namespace Chip8.Binary64

/-! ## Decimals of an interval -/

theorem lift_div_sink (exponent : Int) :
    (Decimal.lift exponent : ℚ) / Decimal.sink exponent = 10 ^ exponent := by
  rcases le_total 0 exponent with whole | places
  · rw [Decimal.sink_of_nonneg whole, Nat.cast_one, div_one]
    rcases Int.eq_ofNat_of_zero_le whole with ⟨power, rfl⟩
    exact Nat.cast_pow 10 power
  · rw [Decimal.lift_of_nonpos places, Nat.cast_one, one_div]
    rcases Int.exists_eq_neg_ofNat places with ⟨power, rfl⟩
    rw [Decimal.sink, neg_neg, zpow_neg]
    exact congrArg _ (Nat.cast_pow 10 power)

/-- The rational number that a decimal stands for. -/
def Decimal.value (decimal : Decimal) : ℚ :=
  decimal.coefficient * 10 ^ decimal.exponent

/-- A decimal of an interval is nearest to the number of the interval. -/
theorem nearest_of_contains {code : Nat} {decimal : Decimal}
    (contained : (Interval.ofCode code).contains decimal = true)
    (finite : code < infinityCode) : Nearest decimal.value code := by
  have holds := Interval.contains_iff.mp contained
  have nearest := nearest_of_holds (Decimal.sink_pos _) holds
  rwa [Nat.min_eq_right finite.le, Nat.cast_mul, Nat.cast_mul,
    mul_div_mul_right _ _ unitsPerOne_cast_pos.ne', mul_div_assoc,
    lift_div_sink] at nearest

/-! ## Positional texts -/

/-- A whole decimal is written as its digits. -/
theorem positional_whole {decimal : Decimal}
    (whole : 0 ≤ decimal.exponent) :
    Numeral.Spells decimal.positional.toList
      (10 ^ decimal.exponent.toNat * decimal.coefficient) := by
  simp only [Decimal.positional]
  rw [if_pos whole, String.toList_ofList]
  exact (Numeral.spells_toDigits _).append_zeros _

/-- A decimal with places behind the point is written with a point. -/
theorem positional_point {decimal : Decimal}
    (places : decimal.exponent < 0) :
    ∃ whole fraction,
      decimal.positional.toList = whole ++ '.' :: fraction ∧
        Numeral.Spells (whole ++ fraction) decimal.coefficient ∧
        -(fraction.length : Int) = decimal.exponent := by
  simp only [Decimal.positional]
  rw [if_neg (by omega), String.toList_ofList]
  have spelled :=
    (Numeral.spells_toDigits decimal.coefficient).leftpad
      ((-decimal.exponent).toNat + 1)
  have long :
      (-decimal.exponent).toNat <
        ((Nat.toDigits 10 decimal.coefficient).leftpad
          ((-decimal.exponent).toNat + 1) '0').length := by
    rw [List.length_leftpad]
    omega
  refine ⟨_, _, rfl, ?_, ?_⟩
  · rwa [List.take_append_drop]
  · rw [List.length_drop]
    omega

/-- The positional text of a decimal is a mantissa with its value. -/
theorem mantissa_positional (decimal : Decimal) :
    ∃ coefficient places,
      Mantissa decimal.positional.toList coefficient places ∧
        (coefficient : ℚ) * 10 ^ (-(places : Int)) = decimal.value := by
  by_cases whole : 0 ≤ decimal.exponent
  · refine ⟨_, 0, .whole (positional_whole whole), ?_⟩
    rw [Nat.cast_mul, Nat.cast_pow, Nat.cast_ofNat, Nat.cast_zero, neg_zero,
      zpow_zero, mul_one, mul_comm, ← zpow_natCast, Int.toNat_of_nonneg whole,
      Decimal.value]
  · rcases positional_point (Int.lt_of_not_ge whole) with
      ⟨before, behind, text, spelled, places⟩
    refine ⟨decimal.coefficient, behind.length, ?_, ?_⟩
    · rw [text]
      exact .point spelled
    · rw [places, Decimal.value]

/-- The positional text of a decimal of a number denotes the number. -/
theorem denotes_positional {code : Nat} {decimal : Decimal}
    (contained : (Interval.ofCode code).contains decimal = true)
    (finite : code < infinityCode) :
    Denotes decimal.positional.toList (ofCode false code) := by
  rcases mantissa_positional decimal with
    ⟨coefficient, places, digits, value⟩
  apply denotes_of_mantissa digits
  rw [value]
  exact nearest_of_contains contained finite

/-- The text of a positive finite number is that of its shortest decimal. -/
theorem text_ofCode {code : Nat} (positive : 0 < code)
    (finite : code < infinityCode) :
    (ofCode false code).text =
      (Interval.ofCode code).shortest.positional := by
  have small := lt_signPlace finite
  rw [text, magnitudeText, isNegative_ofCode false code small,
    isNaN_ofCode false finite, isFinite_ofCode false finite,
    isZero_ofCode false finite positive, shortest,
    code_ofCode false code small]
  rfl

/-- A positive finite number is read from its text. -/
theorem ofText_text {code : Nat} (positive : 0 < code)
    (finite : code < infinityCode) :
    ofText? (ofCode false code).text.toList = some (ofCode false code) := by
  rw [text_ofCode positive finite, ofText?_eq_some_iff]
  exact denotes_positional (contains_shortest positive) finite

end Chip8.Binary64
