import Chip8.Proofs.Binary64.Reading

/-!
# Decimals on a grid

The decimals with a given exponent form a grid, and a number lies between two
neighbours of it.  What is nearest to the number on the grid is one of these,
so the one that `Interval.onGrid?` finds is as close to the number as any
decimal of the grid that is rounded to it, by `onGrid_closest`.  If it finds
none, no decimal of the grid is rounded to the number: `onGrid_ne_none`.
-/

namespace Chip8.Binary64

/-! ## The values of decimals -/

namespace Decimal

theorem value_nonneg (decimal : Decimal) : 0 ≤ decimal.value :=
  mul_nonneg (Nat.cast_nonneg _) (zpow_nonneg (by norm_num) _)

theorem sink_cast_pos (exponent : Int) : (0 : ℚ) < sink exponent :=
  Nat.cast_pos.mpr (sink_pos exponent)

theorem value_eq_div (decimal : Decimal) :
    decimal.value =
      (decimal.coefficient * lift decimal.exponent : Nat) /
        (sink decimal.exponent : Nat) := by
  rw [value, ← lift_div_sink, Nat.cast_mul, mul_div_assoc]

theorem SameValue.value_eq {left right : Decimal}
    (same : left.SameValue right) : left.value = right.value := by
  rw [value_eq_div, value_eq_div,
    div_eq_div_iff (sink_cast_pos _).ne' (sink_cast_pos _).ne',
    ← Nat.cast_mul, ← Nat.cast_mul, Nat.cast_inj]
  exact same

end Decimal

/-- Whether a value is a whole multiple of a power of ten. -/
def OnGrid (exponent : Int) (value : ℚ) : Prop :=
  ∃ coefficient : Nat, value = coefficient * 10 ^ exponent

theorem ten_zpow_pos (exponent : Int) : (0 : ℚ) < 10 ^ exponent :=
  zpow_pos (by norm_num) exponent

theorem OnGrid.nonneg {value : ℚ} {exponent : Int}
    (onGrid : OnGrid exponent value) : 0 ≤ value := by
  rcases onGrid with ⟨coefficient, rfl⟩
  exact mul_nonneg (Nat.cast_nonneg _) (ten_zpow_pos exponent).le

/-- A grid is part of every finer one. -/
theorem OnGrid.mono {value : ℚ} {coarse fine : Int}
    (onGrid : OnGrid coarse value) (le : fine ≤ coarse) :
    OnGrid fine value := by
  rcases onGrid with ⟨coefficient, rfl⟩
  obtain ⟨shift, shifted⟩ : ∃ shift : Nat, coarse = shift + fine :=
    ⟨(coarse - fine).toNat, by omega⟩
  refine ⟨coefficient * 10 ^ shift, ?_⟩
  rw [shifted, zpow_add₀ (by norm_num), zpow_natCast, Nat.cast_mul,
    Nat.cast_pow, Nat.cast_ofNat, mul_assoc]

/-- Values on a grid are a step apart, or they are the same. -/
theorem OnGrid.le_sub {left right : ℚ} {exponent : Int}
    (onLeft : OnGrid exponent left) (onRight : OnGrid exponent right)
    (lt : left < right) : 10 ^ exponent ≤ right - left := by
  rcases onLeft with ⟨smaller, rfl⟩
  rcases onRight with ⟨larger, rfl⟩
  have power_pos := ten_zpow_pos exponent
  have counts : smaller < larger :=
    Nat.cast_lt.mp (lt_of_mul_lt_mul_right lt power_pos.le)
  rw [← sub_mul, ← Nat.cast_sub counts.le]
  apply le_mul_of_one_le_left power_pos.le
  exact_mod_cast Nat.sub_pos_of_lt counts

/-! ## Values that are rounded to a number -/

/-- Every value is rounded to some number. -/
theorem exists_nearest_of_nonneg {value : ℚ} (nonneg : 0 ≤ value) :
    ∃ code, Nearest value code := by
  rcases nearest_ofRatio value.num.toNat value.den_pos with
    ⟨code, -, nearest⟩
  have numerator : ((value.num.toNat : Nat) : ℚ) = value.num := by
    exact_mod_cast Int.toNat_of_nonneg (Rat.num_nonneg.mpr nonneg)
  rw [numerator, Rat.num_div_den] at nearest
  exact ⟨code, nearest⟩

/-- What lies between two values of a number is rounded to it, too. -/
theorem Nearest.between {low value high : ℚ} {code : Nat} (nonneg : 0 ≤ low)
    (left : Nearest low code) (right : Nearest high code)
    (low_le : low ≤ value) (le_high : value ≤ high) :
    Nearest value code := by
  rcases exists_nearest_of_nonneg (nonneg.trans low_le) with
    ⟨other, nearest⟩
  have same : other = code :=
    le_antisymm (nearest_mono le_high nearest right)
      (nearest_mono low_le left nearest)
  rwa [← same]

section

variable {code : Nat} (finite : code < infinityCode)
include finite

/-- An interval contains the decimals that are rounded to its number. -/
theorem contains_iff_nearest {decimal : Decimal} :
    (Interval.ofCode code).contains decimal = true ↔
      Nearest decimal.value code := by
  constructor
  · intro contained
    exact nearest_of_contains contained finite
  · intro nearest
    rcases exists_holds
      (decimal.coefficient * Decimal.lift decimal.exponent * unitsPerOne)
      (Decimal.sink_pos decimal.exponent) with ⟨other, holds, -⟩
    have found := nearest_of_holds (Decimal.sink_pos _) holds
    rw [Nat.cast_mul _ unitsPerOne,
      mul_div_mul_right _ _ unitsPerOne_cast_pos.ne',
      ← Decimal.value_eq_div] at found
    have same := nearest_unique found nearest
    have code_eq : other = code := by omega
    rw [Interval.contains_iff, ← code_eq]
    exact holds

theorem nearest_self : Nearest (valueOfCode code) code :=
  nearest_valueOfCode finite.le

end

/-! ## The closest of some values -/

/-- As close to a point as any candidate, and the greater of two as close. -/
structure Closest (candidates : ℚ → Prop) (point value : ℚ) : Prop where
  le : ∀ other, candidates other → |value - point| ≤ |other - point|
  greater :
    ∀ other, candidates other →
      |other - point| = |value - point| → other ≤ value

theorem closest_of_le {candidates : ℚ → Prop} {floor point : ℚ}
    (floor_le : floor ≤ point)
    (apart :
      ∀ other, candidates other →
        other ≤ floor ∨ 2 * point < floor + other) :
    Closest candidates point floor := by
  have distance : |floor - point| = point - floor := by
    rw [abs_sub_comm, abs_of_nonneg (sub_nonneg.mpr floor_le)]
  constructor
  case le =>
    intro other candidate
    rw [distance]
    rcases apart other candidate with below | beyond
    · rw [abs_sub_comm]
      exact (sub_le_sub_left below _).trans (le_abs_self _)
    · refine le_trans ?_ (le_abs_self _)
      linarith
  case greater =>
    intro other candidate same
    rw [distance] at same
    have far := (le_abs_self (other - point)).trans_eq same
    rcases apart other candidate with below | beyond
    · exact below
    · linarith

theorem closest_of_ge {candidates : ℚ → Prop} {ceiling point : ℚ}
    (le_ceiling : point ≤ ceiling)
    (apart :
      ∀ other, candidates other →
        ceiling ≤ other ∨ other + ceiling ≤ 2 * point) :
    Closest candidates point ceiling := by
  have distance : |ceiling - point| = ceiling - point :=
    abs_of_nonneg (sub_nonneg.mpr le_ceiling)
  constructor
  case le =>
    intro other candidate
    rw [distance]
    rcases apart other candidate with beyond | below
    · exact (sub_le_sub_right beyond _).trans (le_abs_self _)
    · rw [abs_sub_comm]
      refine le_trans ?_ (le_abs_self _)
      linarith
  case greater =>
    intro other candidate same
    rw [distance] at same
    have far := (le_abs_self (other - point)).trans_eq same
    rcases apart other candidate with beyond | below <;> linarith

/-- Candidates that lose to a better one make no difference. -/
theorem Closest.of_closer {candidates more : ℚ → Prop} {point value : ℚ}
    (closest : Closest candidates point value)
    (closer :
      ∀ other, more other →
        candidates other ∨
          ∃ better, candidates better ∧
            |better - point| < |other - point|) :
    Closest more point value := by
  constructor
  case le =>
    intro other candidate
    rcases closer other candidate with before | ⟨better, before, lt⟩
    · exact closest.le other before
    · exact (closest.le better before).trans lt.le
  case greater =>
    intro other candidate same
    rcases closer other candidate with before | ⟨better, before, lt⟩
    · exact closest.greater other before same
    · exact absurd ((closest.le better before).trans_lt lt) same.not_gt

/-! ## The neighbours of a number -/

namespace Interval

/-- The scale of a grid on which measures are whole. -/
def scaleOf (exponent : Int) : ℚ :=
  2 * unitsPerOne * Decimal.sink exponent

section

variable (code : Nat) (exponent : Int)

theorem scaleOf_pos : 0 < scaleOf exponent :=
  mul_pos (mul_pos two_pos unitsPerOne_cast_pos)
    (Decimal.sink_cast_pos exponent)

theorem cast_measure (decimal : Decimal) :
    (measure decimal : ℚ) =
      decimal.value * scaleOf decimal.exponent := by
  have sink := (Decimal.sink_cast_pos decimal.exponent).ne'
  rw [Decimal.value_eq_div, scaleOf, measure, Nat.cast_mul,
    Nat.cast_mul 2, Nat.cast_ofNat, mul_comm _ (Decimal.sink _ : ℚ),
    ← mul_assoc (_ / _), div_mul_cancel₀ _ sink]

theorem cast_middle :
    (((ofCode code).middle * Decimal.sink exponent : Nat) : ℚ) =
      valueOfCode code * scaleOf exponent := by
  have units := unitsPerOne_cast_pos.ne'
  change ((2 * unitsOfCode code * Decimal.sink exponent : Nat) : ℚ) = _
  rw [valueOfCode, scaleOf, Nat.cast_mul, Nat.cast_mul, Nat.cast_ofNat,
    mul_comm 2 (unitsPerOne : ℚ), mul_assoc _ 2, ← mul_assoc _ _ (2 * _),
    div_mul_cancel₀ _ units, mul_left_comm, mul_assoc]

theorem value_below_le :
    ((ofCode code).below exponent).value ≤ valueOfCode code := by
  have floor := ((ofCode code).middle_between exponent).1
  rw [← Nat.cast_le (α := ℚ), cast_measure, cast_middle] at floor
  exact le_of_mul_le_mul_right floor (scaleOf_pos exponent)

theorem lt_value_above :
    valueOfCode code < ((ofCode code).above exponent).value := by
  have ceiling := ((ofCode code).middle_between exponent).2
  rw [← Nat.cast_lt (α := ℚ), cast_measure, cast_middle] at ceiling
  exact lt_of_mul_lt_mul_right ceiling (scaleOf_pos exponent).le

theorem leansDown_iff :
    (ofCode code).leansDown exponent = true ↔
      2 * valueOfCode code <
        ((ofCode code).below exponent).value +
          ((ofCode code).above exponent).value := by
  have measures :
      ((measure ((ofCode code).below exponent) : ℚ) +
          measure ((ofCode code).above exponent)) =
        (((ofCode code).below exponent).value +
          ((ofCode code).above exponent).value) * scaleOf exponent := by
    rw [cast_measure, cast_measure, add_mul]
    rfl
  rw [leansDown, decide_eq_true_iff, ← Nat.cast_lt (α := ℚ), Nat.cast_add,
    measures, Nat.cast_mul 2, cast_middle, Nat.cast_ofNat, ← mul_assoc]
  exact mul_lt_mul_iff_left₀ (scaleOf_pos exponent)

variable {exponent}

/-- Nothing on a grid lies between neighbours. -/
theorem le_below_or_above_le {value : ℚ} (onGrid : OnGrid exponent value) :
    value ≤ ((ofCode code).below exponent).value ∨
      ((ofCode code).above exponent).value ≤ value := by
  rcases onGrid with ⟨coefficient, rfl⟩
  have power_pos := ten_zpow_pos exponent
  rcases Nat.lt_or_ge ((ofCode code).below exponent).coefficient
    coefficient with more | less
  · refine .inr (mul_le_mul_of_nonneg_right ?_ power_pos.le)
    exact Nat.cast_le.mpr more
  · refine .inl (mul_le_mul_of_nonneg_right ?_ power_pos.le)
    exact Nat.cast_le.mpr less

end

/-- What is found on a grid is a neighbour. -/
theorem onGrid_eq_below_or_above {interval : Interval} {exponent : Int}
    {decimal : Decimal} (hit : interval.onGrid? exponent = some decimal) :
    decimal = interval.below exponent ∨
      decimal = interval.above exponent := by
  simp only [onGrid?] at hit
  split at hit
  next =>
    split at hit
    next => exact .inl (Option.some.inj hit).symm
    next => exact .inr (Option.some.inj hit).symm
  next => exact .inl (Option.some.inj hit).symm
  next => exact .inr (Option.some.inj hit).symm
  next => cases hit

section

variable {code : Nat} {exponent : Int} (finite : code < infinityCode)
include finite

/-- A neighbour is rounded to a number if anything behind it is. -/
theorem contains_neighbour {value : ℚ} (onGrid : OnGrid exponent value)
    (nearest : Nearest value code) :
    value ≤ ((ofCode code).below exponent).value ∧
        (ofCode code).contains ((ofCode code).below exponent) = true ∨
      ((ofCode code).above exponent).value ≤ value ∧
        (ofCode code).contains ((ofCode code).above exponent) = true := by
  have floor := value_below_le code exponent
  have ceiling := lt_value_above code exponent
  rcases le_below_or_above_le code onGrid with below | above
  · refine .inl ⟨below, (contains_iff_nearest finite).mpr ?_⟩
    exact nearest.between onGrid.nonneg (nearest_self finite) below floor
  · refine .inr ⟨above, (contains_iff_nearest finite).mpr ?_⟩
    exact (nearest_self finite).between
      ((Decimal.value_nonneg _).trans floor) nearest ceiling.le above

theorem onGrid_ne_none {value : ℚ} (onGrid : OnGrid exponent value)
    (nearest : Nearest value code) :
    (ofCode code).onGrid? exponent ≠ none := by
  intro miss
  rcases (ofCode code).onGrid_cases exponent with
    ⟨found, same, -⟩ | ⟨-, noFloor, noCeiling⟩
  · rw [miss] at same
    cases same
  · rcases contains_neighbour finite onGrid nearest with
      ⟨-, floor⟩ | ⟨-, ceiling⟩
    · rw [noFloor] at floor
      cases floor
    · rw [noCeiling] at ceiling
      cases ceiling

/-- A decimal that is found is the closest one of its grid. -/
theorem onGrid_closest {decimal : Decimal}
    (hit : (ofCode code).onGrid? exponent = some decimal) :
    Nearest decimal.value code ∧
      Closest (fun other => OnGrid exponent other ∧ Nearest other code)
        (valueOfCode code) decimal.value := by
  have floor_le := value_below_le code exponent
  have le_ceiling := (lt_value_above code exponent).le
  have sides other
      (candidate : OnGrid exponent other ∧ Nearest other code) :=
    contains_neighbour finite candidate.1 candidate.2
  refine ⟨(contains_iff_nearest finite).mp (contains_onGrid hit), ?_⟩
  simp only [onGrid?] at hit
  split at hit
  next floor ceiling =>
    split at hit
    next down =>
      cases hit
      rw [leansDown_iff] at down
      refine closest_of_le floor_le fun other candidate => ?_
      refine (sides other candidate).imp And.left fun above => ?_
      linarith [above.1]
    next up =>
      cases hit
      rw [leansDown_iff, not_lt] at up
      refine closest_of_ge le_ceiling fun other candidate => ?_
      refine (sides other candidate).symm.imp And.left fun below => ?_
      linarith [below.1]
  next noCeiling =>
    cases hit
    refine closest_of_le floor_le fun other candidate => ?_
    refine (sides other candidate).imp And.left fun above => ?_
    rw [noCeiling] at above
    cases above.2
  next noFloor _ =>
    cases hit
    refine closest_of_ge le_ceiling fun other candidate => ?_
    refine (sides other candidate).symm.imp And.left fun below => ?_
    rw [noFloor] at below
    cases below.2
  next => cases hit

end

end Interval

end Chip8.Binary64
