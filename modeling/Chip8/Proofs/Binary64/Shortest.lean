import Chip8.Proofs.Binary64.Nearest
import Chip8.Proofs.Text.Numeral

/-!
# The shortest decimal reads back

A decimal belongs to an interval if its value lies there, by `contains_iff`,
so it does not matter how the value is split into coefficient and exponent.

On a grid of seventeen digits the step is smaller than the interval of any
code: the magnitude has a leading digit on that grid by
`step_le_of_leadingPlace`, and `middle_add_low_lt_high` compares it with the
width of the interval.  So a neighbour of the magnitude lies in the interval,
the search ends with a hit, and `contains_shortest`.
-/

namespace Chip8.Binary64

/-! ## Powers of ten -/

namespace Decimal

theorem lift_pos (exponent : Int) : 0 < lift exponent :=
  Nat.pow_pos (by decide)

theorem sink_pos (exponent : Int) : 0 < sink exponent :=
  Nat.pow_pos (by decide)

theorem sink_of_nonneg {exponent : Int} (whole : 0 ≤ exponent) :
    sink exponent = 1 := by
  rw [sink, Int.toNat_of_nonpos (Int.neg_nonpos_of_nonneg whole)]

theorem lift_of_nonpos {exponent : Int} (places : exponent ≤ 0) :
    lift exponent = 1 := by
  rw [lift, Int.toNat_of_nonpos places]

theorem lift_mul_pow (exponent : Int) (power : Nat) :
    lift exponent * 10 ^ power = 10 ^ (exponent.toNat + power) :=
  (Nat.pow_add 10 exponent.toNat power).symm

theorem pow_mul_sink (exponent : Int) (power : Nat) :
    10 ^ power * sink exponent = 10 ^ (power + (-exponent).toNat) :=
  (Nat.pow_add 10 power (-exponent).toNat).symm

/-- Powers of ten add up, whatever the sign of the exponents. -/
theorem lift_mul_sink (exponent : Int) (power : Nat) :
    lift exponent * 10 ^ power * sink (exponent + power) =
      lift (exponent + power) * sink exponent := by
  have exponents :
      exponent.toNat + power + (-(exponent + power)).toNat =
        (exponent + power).toNat + (-exponent).toNat := by
    omega
  rw [lift_mul_pow, pow_mul_sink, exponents]
  exact Nat.pow_add 10 _ _

/-! ## Decimals of one value -/

/-- Whether two decimals have the same value, by their cross products. -/
def SameValue (left right : Decimal) : Prop :=
  left.coefficient * lift left.exponent * sink right.exponent =
    right.coefficient * lift right.exponent * sink left.exponent

theorem sameValue_dropZero (decimal : Decimal) :
    decimal.SameValue decimal.dropZero := by
  unfold dropZero
  split
  next zero =>
    rcases Nat.dvd_of_mod_eq_zero zero with ⟨tens, coefficient⟩
    have powers := lift_mul_sink decimal.exponent 1
    rw [SameValue, coefficient, Nat.mul_div_cancel_left _ (by decide)]
    calc
      10 * tens * lift decimal.exponent * sink (decimal.exponent + 1) =
          tens *
            (lift decimal.exponent * 10 ^ 1 *
              sink (decimal.exponent + (1 : Nat))) := by
        rw [Nat.pow_one, Nat.cast_one]
        ring
      _ = tens * lift (decimal.exponent + 1) * sink decimal.exponent := by
        rw [powers, Nat.cast_one, Nat.mul_assoc]
  next => rfl

/-- A positive exponent can be moved into the coefficient. -/
theorem sameValue_whole {decimal : Decimal} (whole : 0 ≤ decimal.exponent) :
    decimal.SameValue
      ⟨10 ^ decimal.exponent.toNat * decimal.coefficient, 0⟩ := by
  change
    decimal.coefficient * 10 ^ decimal.exponent.toNat * 1 =
      10 ^ decimal.exponent.toNat * decimal.coefficient * 1 *
        sink decimal.exponent
  rw [sink_of_nonneg whole, Nat.mul_one, Nat.mul_one, Nat.mul_one,
    Nat.mul_comm]

end Decimal

/-! ## Decimals of an interval -/

namespace Interval

variable {interval : Interval}

/-- Whether an interval holds a quotient depends on its value alone. -/
theorem Holds.congr {numerator denominator : Nat}
    {otherNumerator otherDenominator : Nat}
    (holds : interval.Holds numerator denominator)
    (positive : 0 < denominator) (otherPositive : 0 < otherDenominator)
    (cross :
      numerator * otherDenominator = otherNumerator * denominator) :
    interval.Holds otherNumerator otherDenominator := by
  have scaled (limit : Nat) :
      limit * otherDenominator * denominator =
        limit * denominator * otherDenominator :=
    Nat.mul_right_comm _ _ _
  have point :
      2 * otherNumerator * denominator =
        2 * numerator * otherDenominator := by
    rw [Nat.mul_assoc, Nat.mul_assoc, cross]
  have low := Nat.mul_le_mul_right otherDenominator holds.low_le
  have high := Nat.mul_le_mul_right otherDenominator holds.le_high
  rw [← scaled, ← point] at low high
  apply holds_of_ends
  · exact Nat.le_of_mul_le_mul_right low positive
  · exact Nat.le_of_mul_le_mul_right high positive
  · rintro (atLow | atHigh)
    · apply holds.closed_of_end ∘ .inl
      apply Nat.eq_of_mul_eq_mul_right otherPositive
      rw [← scaled, ← point, atLow]
    · apply holds.closed_of_end ∘ .inr
      apply Nat.eq_of_mul_eq_mul_right otherPositive
      rw [← scaled, ← point, atHigh]

theorem measure_eq (decimal : Decimal) :
    measure decimal =
      2 * (decimal.coefficient * Decimal.lift decimal.exponent *
        unitsPerOne) :=
  Nat.mul_left_comm _ _ _

theorem contains_iff {decimal : Decimal} :
    interval.contains decimal = true ↔
      interval.Holds
        (decimal.coefficient * Decimal.lift decimal.exponent * unitsPerOne)
        (Decimal.sink decimal.exponent) := by
  unfold contains Holds
  rw [measure_eq]
  split <;> simp only [Bool.and_eq_true, decide_eq_true_eq]

/-- Decimals of one value belong to the same intervals. -/
theorem contains_of_sameValue {left right : Decimal}
    (same : left.SameValue right)
    (contained : interval.contains left = true) :
    interval.contains right = true := by
  rw [contains_iff] at contained ⊢
  refine contained.congr (Decimal.sink_pos _) (Decimal.sink_pos _) ?_
  rw [Nat.mul_right_comm, same, Nat.mul_right_comm]

/-- A neighbour on a grid is found exactly if one of the two is contained. -/
theorem onGrid_cases (interval : Interval) (exponent : Int) :
    (∃ decimal,
        interval.onGrid? exponent = some decimal ∧
          interval.contains decimal = true) ∨
      (interval.onGrid? exponent = none ∧
        interval.contains (interval.below exponent) = false ∧
        interval.contains (interval.above exponent) = false) := by
  simp only [onGrid?]
  cases floor : interval.contains (interval.below exponent) <;>
    cases ceiling : interval.contains (interval.above exponent)
  · exact .inr ⟨rfl, rfl, rfl⟩
  · exact .inl ⟨_, rfl, ceiling⟩
  · exact .inl ⟨_, rfl, floor⟩
  · refine .inl ⟨_, rfl, ?_⟩
    split
    · exact floor
    · exact ceiling

theorem contains_onGrid {exponent : Int} {decimal : Decimal}
    (hit : interval.onGrid? exponent = some decimal) :
    interval.contains decimal = true := by
  rcases interval.onGrid_cases exponent with
    ⟨found, same, contained⟩ | ⟨miss, -, -⟩
  · rw [hit] at same
    cases same
    exact contained
  · rw [hit] at miss
    cases miss

/-! ## The grid of seventeen digits -/

/-- The distance of two decimals on a grid, in the measure of that grid. -/
def step (exponent : Int) : Nat :=
  Decimal.lift exponent * (2 * unitsPerOne)

theorem measure_below (exponent : Int) :
    measure (interval.below exponent) =
      interval.middle * Decimal.sink exponent / step exponent *
        step exponent :=
  Nat.mul_assoc _ _ _

theorem measure_above (exponent : Int) :
    measure (interval.above exponent) =
      measure (interval.below exponent) + step exponent := by
  rw [measure_below, ← Nat.add_one_mul]
  exact Nat.mul_assoc _ _ _

/-- The magnitude lies between its neighbours on a grid. -/
theorem middle_between (exponent : Int) :
    measure (interval.below exponent) ≤
        interval.middle * Decimal.sink exponent ∧
      interval.middle * Decimal.sink exponent <
        measure (interval.above exponent) := by
  have step_pos : 0 < step exponent :=
    Nat.mul_pos (Decimal.lift_pos exponent) (by decide +kernel)
  have division :=
    Nat.div_add_mod' (interval.middle * Decimal.sink exponent)
      (step exponent)
  have rest :=
    Nat.mod_lt (interval.middle * Decimal.sink exponent) step_pos
  rw [measure_above, measure_below]
  omega

/-- A decimal above the low end and below the high end is contained. -/
theorem contains_of_between {decimal : Decimal}
    (low :
      interval.low * Decimal.sink decimal.exponent < measure decimal)
    (high :
      measure decimal < interval.high * Decimal.sink decimal.exponent) :
    interval.contains decimal = true := by
  rw [measure_eq] at low high
  rw [contains_iff]
  apply holds_of_ends low.le high.le
  rintro (same | same)
  · exact absurd same low.ne
  · exact absurd same high.ne

/-- A grid finer than an interval has a neighbour in it. -/
theorem onGrid_of_step_lt {exponent : Int}
    (low : interval.low < interval.middle)
    (high : interval.middle < interval.high)
    (fine :
      interval.low * Decimal.sink exponent + step exponent <
        interval.high * Decimal.sink exponent) :
    interval.onGrid? exponent ≠ none := by
  rcases interval.middle_between exponent with ⟨floor, ceiling⟩
  have above := interval.measure_above exponent
  have lowScaled :=
    Nat.mul_lt_mul_of_pos_right low (Decimal.sink_pos exponent)
  have highScaled :=
    Nat.mul_lt_mul_of_pos_right high (Decimal.sink_pos exponent)
  rcases interval.onGrid_cases exponent with
    ⟨found, same, -⟩ | ⟨-, noFloor, noCeiling⟩
  · rw [same]
    exact Option.some_ne_none found
  · have beyond :
        measure (interval.below exponent) ≤
          interval.low * Decimal.sink exponent := by
      by_contra inside
      rw [contains_of_between (Nat.lt_of_not_le inside)
        (floor.trans_lt highScaled)] at noFloor
      cases noFloor
    have inside :
        measure (interval.above exponent) <
          interval.high * Decimal.sink exponent := by
      omega
    rw [contains_of_between (lowScaled.trans ceiling) inside] at noCeiling
    cases noCeiling

/--
If a magnitude has a leading digit at some place, it has no fewer than
sixteen digits more on the grid of the sixteenth place behind that one.
-/
theorem step_le_of_leading {exponent : Int} {shift leading : Nat}
    (reached :
      10 ^ leading * (2 * unitsPerOne) ≤
        interval.middle * Nat.pow 10 shift)
    (place : exponent + 16 + shift = leading) :
    10 ^ 16 * step exponent ≤ interval.middle * Decimal.sink exponent := by
  have exponents :
      exponent.toNat + (16 + shift) = leading + (-exponent).toNat := by
    omega
  have powers :
      Decimal.lift exponent * (10 ^ 16 * 10 ^ shift) =
        10 ^ leading * Decimal.sink exponent := by
    rw [← Nat.pow_add, Decimal.lift_mul_pow, Decimal.pow_mul_sink,
      exponents]
  have shift_pos : 0 < 10 ^ shift := Nat.pow_pos (by decide)
  apply Nat.le_of_mul_le_mul_right _ shift_pos
  calc
    10 ^ 16 * step exponent * 10 ^ shift =
        Decimal.lift exponent * (10 ^ 16 * 10 ^ shift) *
          (2 * unitsPerOne) := by
      unfold step
      ring
    _ = 10 ^ leading * (2 * unitsPerOne) * Decimal.sink exponent := by
      rw [powers, Nat.mul_right_comm]
    _ ≤ interval.middle * 10 ^ shift * Decimal.sink exponent :=
      Nat.mul_le_mul_right _ reached
    _ = interval.middle * Decimal.sink exponent * 10 ^ shift :=
      Nat.mul_right_comm _ _ _

theorem unitsPerOne_le : unitsPerOne ≤ Nat.pow 10 324 := by
  decide +kernel

/-- The leading place counts the digits of a magnitude after a shift. -/
theorem leadingPlace_spec (nonzero : 2 ≤ interval.middle) :
    ∃ length shift : Nat,
      0 < length ∧ interval.leadingPlace = (length : Int) - shift ∧
        10 ^ (length - 1) * (2 * unitsPerOne) ≤
          interval.middle * Nat.pow 10 shift ∧
        interval.middle * Nat.pow 10 shift <
          10 ^ length * (2 * unitsPerOne) := by
  obtain ⟨lifted, lifted_eq⟩ :
      ∃ lifted,
        lifted = interval.middle * Nat.pow 10 324 / (2 * unitsPerOne) :=
    ⟨_, rfl⟩
  have place :
      interval.leadingPlace =
        ((Nat.toDigits 10 lifted).length : Int) - (324 : Nat) := by
    rw [lifted_eq]
    rfl
  have scale_pos : 0 < 2 * unitsPerOne := by decide +kernel
  have lifted_ne : lifted ≠ 0 := by
    rw [lifted_eq]
    apply Nat.pos_iff_ne_zero.mp
    apply Nat.div_pos _ scale_pos
    exact Nat.mul_le_mul nonzero unitsPerOne_le
  have leading := Numeral.pow_length_pred_le lifted_ne
  have beyond := Numeral.lt_pow_length lifted
  nth_rewrite 2 [lifted_eq] at leading
  nth_rewrite 1 [lifted_eq] at beyond
  rw [Nat.le_div_iff_mul_le scale_pos] at leading
  rw [Nat.div_lt_iff_lt_mul scale_pos] at beyond
  generalize 324 = shift at place leading beyond
  exact ⟨_, shift, Nat.length_toDigits_pos, place, leading, beyond⟩

theorem step_le_of_leadingPlace (nonzero : 2 ≤ interval.middle) :
    10 ^ 16 * step (interval.leadingPlace - 17) ≤
      interval.middle * Decimal.sink (interval.leadingPlace - 17) := by
  rcases interval.leadingPlace_spec nonzero with
    ⟨length, shift, length_pos, place, leading, -⟩
  apply step_le_of_leading leading
  omega

end Interval

/-! ## Seventeen digits tell numbers apart -/

/-- The interval of a code is not too narrow for its magnitude. -/
theorem middle_add_low_lt_high {code : Nat} (positive : 0 < code) :
    (Interval.ofCode code).middle + 10 ^ 16 * (Interval.ofCode code).low <
      10 ^ 16 * (Interval.ofCode code).high := by
  have magnitude := unitsOfCode_lt_mul_spacing code
  have low := Interval.low_ofCode positive
  have high := Interval.high_ofCode code
  have before := spacing_pos (code - 1)
  change 2 * unitsOfCode code + _ < _
  simp only [fractionCount] at magnitude
  rcases spacing_pred code with same | first
  · omega
  · simp only [fractionCount] at first
    omega

/-- The search for a shortest decimal has a hit at seventeen digits. -/
theorem onGrid_seventeen {code : Nat} (positive : 0 < code) :
    (Interval.ofCode code).onGrid?
      ((Interval.ofCode code).leadingPlace - 17) ≠ none := by
  have magnitude : (Interval.ofCode code).middle = 2 * unitsOfCode code :=
    rfl
  have units := unitsOfCode_pos positive
  have low := Interval.low_ofCode positive
  have high := Interval.high_ofCode code
  have gap := spacing_pos code
  have gapBefore := spacing_pos (code - 1)
  apply Interval.onGrid_of_step_lt (by omega) (by omega)
  have digits :=
    (Interval.ofCode code).step_le_of_leadingPlace (by omega)
  have width :=
    Nat.mul_lt_mul_of_pos_right (middle_add_low_lt_high positive)
      (Decimal.sink_pos ((Interval.ofCode code).leadingPlace - 17))
  rw [Nat.add_mul, Nat.mul_assoc, Nat.mul_assoc] at width
  omega

/-- The shortest decimal of a positive number reads back as it. -/
theorem contains_shortest {code : Nat} (positive : 0 < code) :
    (Interval.ofCode code).contains (Interval.ofCode code).shortest =
      true := by
  apply Interval.contains_of_sameValue (Decimal.sameValue_dropZero _)
  cases search :
      Interval.digitCounts.findSome? fun (count : Nat) =>
        (Interval.ofCode code).onGrid?
          ((Interval.ofCode code).leadingPlace - count) with
  | some decimal =>
      rcases List.exists_of_findSome?_eq_some search with ⟨count, -, hit⟩
      exact Interval.contains_onGrid hit
  | none =>
      have miss := List.findSome?_eq_none_iff.mp search 17 (by decide)
      exact absurd miss (onGrid_seventeen positive)

end Chip8.Binary64
