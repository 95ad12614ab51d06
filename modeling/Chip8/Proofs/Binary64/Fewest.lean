import Chip8.Proofs.Binary64.Grid

/-!
# The fewest digits of a number

Among the decimals that are rounded to a number, `Shortest` is the one with
the fewest digits, the closest to the number of those with as few, and the
greater one of two as close.  There is one such decimal at most, and
`shortest_isShortest` says that the search over the grids of one digit, two
digits and so on finds it.

Fifteen digits are kept by every number of a full binade: two decimals with so
many digits are not both rounded to it, by `eq_of_fifteen_digits`.
-/

namespace Chip8.Binary64

/-! ## Numbers of digits -/

/-- Whether a value is a decimal with at most so many digits. -/
def HasDigits (value : ℚ) (count : Nat) : Prop :=
  ∃ (coefficient : Nat) (exponent : Int),
    coefficient < 10 ^ count ∧ value = coefficient * 10 ^ exponent

theorem HasDigits.mono {value : ℚ} {fewer more : Nat}
    (digits : HasDigits value fewer) (le : fewer ≤ more) :
    HasDigits value more := by
  rcases digits with ⟨coefficient, exponent, few, same⟩
  refine ⟨coefficient, exponent, few.trans_le ?_, same⟩
  exact Nat.pow_le_pow_right (by decide) le

theorem HasDigits.nonneg {value : ℚ} {count : Nat}
    (digits : HasDigits value count) : 0 ≤ value := by
  rcases digits with ⟨coefficient, exponent, -, same⟩
  exact OnGrid.nonneg ⟨coefficient, same⟩

theorem hasDigits_power (place : Int) : HasDigits (10 ^ place) 1 :=
  ⟨1, place, by decide, by rw [Nat.cast_one, one_mul]⟩

theorem coefficient_mul_lt {coefficient count : Nat}
    (few : coefficient < 10 ^ count) (exponent : Int) :
    (coefficient : ℚ) * 10 ^ exponent < 10 ^ count * 10 ^ exponent := by
  apply mul_lt_mul_of_pos_right _ (ten_zpow_pos exponent)
  exact_mod_cast few

/-- From a leading place on, a decimal lies on the grid of its digits. -/
theorem HasDigits.onGrid {value : ℚ} {count : Nat} {place : Int}
    (digits : HasDigits value count) (large : 10 ^ (place - 1) ≤ value) :
    OnGrid (place - count) value := by
  rcases digits with ⟨coefficient, exponent, few, rfl⟩
  have ten : (1 : ℚ) < 10 := by norm_num
  have below :
      (coefficient : ℚ) * 10 ^ exponent < 10 ^ ((count : Int) + exponent) := by
    rw [zpow_add₀ (by norm_num), zpow_natCast]
    exact coefficient_mul_lt few exponent
  have places := (zpow_lt_zpow_iff_right₀ ten).mp (large.trans_lt below)
  exact OnGrid.mono ⟨coefficient, rfl⟩ (by omega)

/--
Decimals with few digits are not close together, as both are on the finer of
their two grids.
-/
theorem HasDigits.lt_mul_sub {left right : ℚ} {count : Nat}
    (leftDigits : HasDigits left count) (rightDigits : HasDigits right count)
    (lt : left < right) : left < 10 ^ count * (right - left) := by
  rcases leftDigits with ⟨leftCount, leftPlace, leftFew, rfl⟩
  rcases rightDigits with ⟨rightCount, rightPlace, rightFew, rfl⟩
  have power_nonneg : (0 : ℚ) ≤ 10 ^ count := by positivity
  rcases le_total leftPlace rightPlace with le | le
  · have apart :=
      OnGrid.le_sub ⟨leftCount, rfl⟩ (OnGrid.mono ⟨rightCount, rfl⟩ le) lt
    exact (coefficient_mul_lt leftFew leftPlace).trans_le
      (mul_le_mul_of_nonneg_left apart power_nonneg)
  · have apart :=
      OnGrid.le_sub (OnGrid.mono ⟨leftCount, rfl⟩ le) ⟨rightCount, rfl⟩ lt
    exact (lt.trans (coefficient_mul_lt rightFew rightPlace)).trans_le
      (mul_le_mul_of_nonneg_left apart power_nonneg)

/-! ## The leading place -/

/-- Digits that are counted after a shift say between which powers they lie. -/
theorem bounds_of_length {units length shift : Nat}
    (length_pos : 0 < length)
    (leading :
      10 ^ (length - 1) * (2 * unitsPerOne) ≤
        2 * units * Nat.pow 10 shift)
    (beyond :
      2 * units * Nat.pow 10 shift < 10 ^ length * (2 * unitsPerOne)) :
    (10 : ℚ) ^ ((length : Int) - shift - 1) ≤ units / unitsPerOne ∧
      (units / unitsPerOne : ℚ) < 10 ^ ((length : Int) - shift) := by
  have before : (length : Int) - shift - 1 = (length - 1 : Nat) - shift := by
    omega
  have shift_pos : (0 : ℚ) < 10 ^ shift := by positivity
  have power (places : Nat) :
      (10 : ℚ) ^ ((places : Int) - shift) = 10 ^ places / 10 ^ shift := by
    rw [zpow_sub₀ (by norm_num), zpow_natCast, zpow_natCast]
  rw [Nat.pow_eq, Nat.mul_left_comm, Nat.mul_assoc 2] at leading beyond
  rw [before, power, power, div_le_div_iff₀ shift_pos unitsPerOne_cast_pos,
    div_lt_div_iff₀ unitsPerOne_cast_pos shift_pos]
  constructor
  · exact_mod_cast Nat.le_of_mul_le_mul_left leading two_pos
  · exact_mod_cast Nat.lt_of_mul_lt_mul_left beyond

section

variable {code : Nat} (positive : 0 < code)
include positive

/-- A number lies between the powers of ten around its leading place. -/
theorem leadingPlace_bounds :
    (10 : ℚ) ^ ((Interval.ofCode code).leadingPlace - 1) ≤
        valueOfCode code ∧
      valueOfCode code <
        10 ^ (Interval.ofCode code).leadingPlace := by
  have nonzero : 2 ≤ (Interval.ofCode code).middle :=
    Nat.mul_le_mul_left 2 (unitsOfCode_pos positive)
  rcases (Interval.ofCode code).leadingPlace_spec nonzero with
    ⟨length, shift, length_pos, place, leading, beyond⟩
  rw [place]
  exact bounds_of_length length_pos leading beyond

theorem not_nearest_zero : ¬ Nearest 0 code := by
  intro nearest
  have zero := nearest_valueOfCode (Nat.zero_le infinityCode)
  rw [valueOfCode_zero] at zero
  exact positive.ne' (nearest_unique nearest zero)

/-- A decimal that is rounded to a number other than zero has a digit. -/
theorem HasDigits.one_le {value : ℚ} {count : Nat}
    (digits : HasDigits value count) (nearest : Nearest value code) :
    1 ≤ count := by
  by_contra none
  rcases digits with ⟨coefficient, exponent, few, rfl⟩
  rw [Nat.lt_one_iff.mp (Nat.lt_of_not_le none), Nat.pow_zero,
    Nat.lt_one_iff] at few
  rw [few, Nat.cast_zero, zero_mul] at nearest
  exact not_nearest_zero positive nearest

end

/-! ## The decimal with the fewest digits -/

/-- The decimal by which a number is written, with the count of its digits. -/
structure Shortest (code : Nat) (value : ℚ) (count : Nat) : Prop where
  digits : HasDigits value count
  nearest : Nearest value code
  fewest :
    ∀ other fewer, HasDigits other fewer → Nearest other code →
      count ≤ fewer
  closest :
    Closest (fun other => HasDigits other count ∧ Nearest other code)
      (valueOfCode code) value

/-- A number has one shortest decimal at most. -/
theorem Shortest.unique {code : Nat} {value other : ℚ}
    {count otherCount : Nat} (left : Shortest code value count)
    (right : Shortest code other otherCount) : value = other := by
  have counts : count = otherCount :=
    Nat.le_antisymm
      (left.fewest other otherCount right.digits right.nearest)
      (right.fewest value count left.digits left.nearest)
  rw [← counts] at right
  have leftCandidate := And.intro left.digits left.nearest
  have rightCandidate := And.intro right.digits right.nearest
  have same :=
    (left.closest.le other rightCandidate).antisymm
      (right.closest.le value leftCandidate)
  exact (right.closest.greater value leftCandidate same).antisymm
    (left.closest.greater other rightCandidate same.symm)

/-- The first grid with a hit, among those of one digit up to seventeen. -/
theorem Interval.exists_first_hit {code : Nat} (positive : 0 < code) :
    let interval := Interval.ofCode code
    ∃ (count : Nat) (decimal : Decimal),
      1 ≤ count ∧ count ≤ 17 ∧
        interval.onGrid? (interval.leadingPlace - count) = some decimal ∧
        (∀ fewer : Nat, 1 ≤ fewer → fewer < count →
          interval.onGrid? (interval.leadingPlace - fewer) = none) ∧
        interval.shortest.value = decimal.value := by
  intro interval
  cases search :
      Interval.digitCounts.findSome? fun (count : Nat) =>
        interval.onGrid? (interval.leadingPlace - count) with
  | none =>
      have miss := List.findSome?_eq_none_iff.mp search 17 (by decide)
      exact absurd miss (onGrid_seventeen positive)
  | some decimal =>
      rcases List.findSome?_eq_some_iff.mp search with
        ⟨before, count, behind, counts, hit, missed⟩
      rcases List.range'_eq_append_iff.mp counts with
        ⟨tried, tried_le, rfl, rest⟩
      rcases List.range'_eq_cons_iff.mp rest.symm with ⟨rfl, left, -⟩
      refine ⟨1 + tried * 1, decimal, by omega, by omega, hit, ?_, ?_⟩
      · intro fewer one_le lt
        exact missed fewer (List.mem_range'_1.mpr (by omega))
      · rw [Interval.shortest, search]
        exact (Decimal.sameValue_dropZero decimal).value_eq.symm

/--
What is found on a grid has no more digits than the grid: the power of ten just
above it has one digit.
-/
theorem Interval.hasDigits_of_onGrid {code count : Nat} (positive : 0 < code)
    (one_le : 1 ≤ count) {decimal : Decimal}
    (hit :
      (Interval.ofCode code).onGrid?
        ((Interval.ofCode code).leadingPlace - count) = some decimal) :
    HasDigits decimal.value count := by
  have bounds := (leadingPlace_bounds positive).2
  generalize (Interval.ofCode code).leadingPlace = place at bounds hit
  have floor :=
    (value_below_le code (place - count)).trans_lt bounds
  have powers : (10 : ℚ) ^ place = 10 ^ count * 10 ^ (place - count) := by
    rw [← zpow_natCast, ← zpow_add₀ (by norm_num), add_sub_cancel]
  rw [powers] at floor
  have few := lt_of_mul_lt_mul_right floor (ten_zpow_pos _).le
  have fewer :
      ((Interval.ofCode code).below (place - count)).coefficient <
        10 ^ count := by
    exact_mod_cast few
  rcases onGrid_eq_below_or_above hit with rfl | rfl
  · exact ⟨_, _, fewer, rfl⟩
  · rcases Nat.lt_or_eq_of_le (Nat.succ_le_of_lt fewer) with less | power
    · exact ⟨_, _, less, rfl⟩
    · have value :
          ((Interval.ofCode code).above (place - count)).value =
            10 ^ place := by
        rw [powers, ← Nat.cast_ofNat, ← Nat.cast_pow, ← power]
        rfl
      rw [value]
      exact (hasDigits_power place).mono one_le

section

variable {code : Nat} (positive : 0 < code) (finite : code < infinityCode)
include positive finite

/-- A smaller decimal has a power of ten between itself and the number. -/
theorem nearest_leading_power {other : ℚ} (nonneg : 0 ≤ other)
    (nearest : Nearest other code)
    (small : other < 10 ^ ((Interval.ofCode code).leadingPlace - 1)) :
    Nearest (10 ^ ((Interval.ofCode code).leadingPlace - 1)) code :=
  nearest.between nonneg (nearest_self finite) small.le
    (leadingPlace_bounds positive).1

/-- No decimal with fewer digits than those of a missed grid is nearest. -/
theorem Interval.le_of_missed {count : Nat}
    (missed :
      ∀ fewer : Nat, 1 ≤ fewer → fewer < count →
        (Interval.ofCode code).onGrid?
          ((Interval.ofCode code).leadingPlace - fewer) = none)
    {other : ℚ} {fewer : Nat} (digits : HasDigits other fewer)
    (nearest : Nearest other code) : count ≤ fewer := by
  have one_le := digits.one_le positive nearest
  by_contra less
  rcases le_or_gt
    ((10 : ℚ) ^ ((Interval.ofCode code).leadingPlace - 1)) other with
    large | small
  · have hit := Interval.onGrid_ne_none finite (digits.onGrid large) nearest
    exact hit (missed fewer one_le (Nat.lt_of_not_le less))
  · have power :=
      nearest_leading_power positive finite digits.nonneg nearest small
    refine Interval.onGrid_ne_none finite ?_ power
      (missed 1 le_rfl (one_le.trans_lt (Nat.lt_of_not_le less)))
    exact (hasDigits_power _).onGrid le_rfl

/-- The decimal that the search finds is the shortest one. -/
theorem shortest_isShortest :
    ∃ count ≤ 17,
      Shortest code (Interval.ofCode code).shortest.value count := by
  have bounds := (leadingPlace_bounds positive).1
  rcases Interval.exists_first_hit positive with
    ⟨count, decimal, one_le, le, hit, missed, same⟩
  rcases Interval.onGrid_closest finite hit with ⟨nearest, closest⟩
  rw [same]
  refine ⟨count, le, ?_⟩
  constructor
  case digits => exact Interval.hasDigits_of_onGrid positive one_le hit
  case nearest => exact nearest
  case fewest =>
    intro other fewer digits nearest
    exact Interval.le_of_missed positive finite missed digits nearest
  case closest =>
    refine closest.of_closer fun other ⟨digits, nearest⟩ => ?_
    rcases le_or_gt
      ((10 : ℚ) ^ ((Interval.ofCode code).leadingPlace - 1)) other with
      large | small
    · exact .inl ⟨digits.onGrid large, nearest⟩
    · have power :=
        nearest_leading_power positive finite digits.nonneg nearest small
      have digit :=
        hasDigits_power ((Interval.ofCode code).leadingPlace - 1)
      refine .inr ⟨_, ⟨(digit.mono one_le).onGrid le_rfl, power⟩, ?_⟩
      rw [abs_of_nonpos (sub_nonpos.mpr bounds),
        abs_of_nonpos (sub_nonpos.mpr (small.le.trans bounds)), neg_lt_neg_iff]
      exact sub_lt_sub_right small _

end

/-! ## Fifteen digits -/

section

variable {code : Nat} (normal : fractionCount ≤ code)
  (finite : code < infinityCode)
include normal finite

/-- Values that are rounded to one number are close together. -/
theorem abs_sub_le_div_of_nearest {left right : ℚ} (left_nonneg : 0 ≤ left)
    (leftNearest : Nearest left code) (right_nonneg : 0 ≤ right)
    (rightNearest : Nearest right code) :
    |right - left| ≤ left / 2 ^ 51 := by
  have leftOff :=
    abs_le.mp (leftNearest.abs_sub_le left_nonneg finite)
  have rightOff :=
    abs_le.mp (rightNearest.abs_sub_le right_nonneg finite)
  have fine :
      2 ^ 52 * ((spacing code : ℚ) / unitsPerOne) ≤ valueOfCode code := by
    rw [valueOfCode, ← mul_div_assoc,
      div_le_div_iff_of_pos_right unitsPerOne_cast_pos]
    exact_mod_cast fractionCount_mul_spacing_le normal
  have gap_nonneg : (0 : ℚ) ≤ spacing code / unitsPerOne :=
    div_nonneg (Nat.cast_nonneg _) unitsPerOne_cast_pos.le
  rw [le_div_iff₀ (by positivity)]
  have gap : |right - left| ≤ spacing code / unitsPerOne := by
    rw [abs_le]
    constructor <;> linarith
  linarith

theorem le_of_fifteen_digits {left right : ℚ}
    (leftDigits : HasDigits left 15) (leftNearest : Nearest left code)
    (rightDigits : HasDigits right 15) (rightNearest : Nearest right code) :
    right ≤ left := by
  by_contra apart
  have far := leftDigits.lt_mul_sub rightDigits (lt_of_not_ge apart)
  have close :=
    abs_sub_le_div_of_nearest normal finite leftDigits.nonneg leftNearest
      rightDigits.nonneg rightNearest
  have left_nonneg := leftDigits.nonneg
  rw [le_div_iff₀ (by positivity)] at close
  linarith [le_abs_self (right - left)]

/-- Decimals of fifteen digits are told apart by rounding. -/
theorem eq_of_fifteen_digits {left right : ℚ}
    (leftDigits : HasDigits left 15) (leftNearest : Nearest left code)
    (rightDigits : HasDigits right 15) (rightNearest : Nearest right code) :
    left = right :=
  le_antisymm
    (le_of_fifteen_digits normal finite rightDigits rightNearest leftDigits
      leftNearest)
    (le_of_fifteen_digits normal finite leftDigits leftNearest rightDigits
      rightNearest)

/-- The shortest decimal is any one of fifteen digits that is rounded so. -/
theorem Shortest.eq_of_fifteen_digits {value other : ℚ} {count : Nat}
    (shortest : Shortest code value count) (digits : HasDigits other 15)
    (nearest : Nearest other code) : value = other := by
  have le := shortest.fewest other 15 digits nearest
  exact Binary64.eq_of_fifteen_digits normal finite (shortest.digits.mono le)
    shortest.nearest digits nearest

end

end Chip8.Binary64
