import Chip8.Binary64.Shortest
import Chip8.Proofs.Binary64.Codes

/-!
# Intervals of nearest numbers

A quotient of units is nearest to a code if it lies in the interval of that
code, and `exists_holds` says that rounding finds such a code.

`near_of_holds` bounds the error of rounding a quotient that is not too small,
in relation to the rounded magnitude.
-/

namespace Chip8.Binary64

/-! ## Half-even rounding -/

theorem roundHalfEven_bounds (numerator : Nat) {denominator : Nat}
    (positive : 0 < denominator) :
    let product := roundHalfEven numerator denominator * denominator
    2 * product ≤ 2 * numerator + denominator ∧
      2 * numerator ≤ 2 * product + denominator ∧
      (2 * product = 2 * numerator + denominator ∨
          2 * numerator = 2 * product + denominator →
        roundHalfEven numerator denominator % 2 = 0) := by
  have division := Nat.div_add_mod' numerator denominator
  have small := Nat.mod_lt numerator positive
  simp only [roundHalfEven]
  split
  · omega
  · have next := Nat.add_one_mul (numerator / denominator) denominator
    split
    · omega
    · rcases Nat.mod_two_eq_zero_or_one (numerator / denominator) with
        even | odd
      · rw [even, Nat.add_zero]
        omega
      · rw [odd]
        omega

/-! ## What an interval holds -/

namespace Interval

/-- Whether a quotient of units lies in an interval. -/
def Holds (interval : Interval) (numerator denominator : Nat) : Prop :=
  if interval.closed then
    interval.low * denominator ≤ 2 * numerator ∧
      2 * numerator ≤ interval.high * denominator
  else
    interval.low * denominator < 2 * numerator ∧
      2 * numerator < interval.high * denominator

section

variable {interval : Interval} {numerator denominator : Nat}

theorem Holds.low_le (holds : interval.Holds numerator denominator) :
    interval.low * denominator ≤ 2 * numerator := by
  unfold Holds at holds
  split at holds
  · exact holds.1
  · exact holds.1.le

theorem Holds.le_high (holds : interval.Holds numerator denominator) :
    2 * numerator ≤ interval.high * denominator := by
  unfold Holds at holds
  split at holds
  · exact holds.2
  · exact holds.2.le

/-- Only a closed interval holds its ends. -/
theorem Holds.closed_of_end
    (holds : interval.Holds numerator denominator)
    (atEnd :
      interval.low * denominator = 2 * numerator ∨
        2 * numerator = interval.high * denominator) :
    interval.closed = true := by
  unfold Holds at holds
  split at holds
  next closed => exact closed
  next =>
    rcases atEnd with low | high
    · exact absurd low holds.1.ne
    · exact absurd high holds.2.ne

theorem holds_of_ends
    (low : interval.low * denominator ≤ 2 * numerator)
    (high : 2 * numerator ≤ interval.high * denominator)
    (closed :
      interval.low * denominator = 2 * numerator ∨
          2 * numerator = interval.high * denominator →
        interval.closed = true) :
    interval.Holds numerator denominator := by
  unfold Holds
  split
  · exact ⟨low, high⟩
  next noEnds =>
    constructor
    · exact lt_of_le_of_ne low fun equal => noEnds (closed (.inl equal))
    · exact lt_of_le_of_ne high fun equal => noEnds (closed (.inr equal))

end

/-! ## The ends of the interval of a code -/

theorem high_ofCode (code : Nat) :
    (ofCode code).high = 2 * unitsOfCode code + spacing code := by
  change unitsOfCode code + unitsOfCode (code + 1) = _
  rw [unitsOfCode_succ, ← Nat.add_assoc, ← Nat.two_mul]

theorem low_ofCode {code : Nat} (positive : 0 < code) :
    (ofCode code).low + spacing (code - 1) = 2 * unitsOfCode code := by
  have step := unitsOfCode_succ (code - 1)
  rw [Nat.sub_add_cancel positive] at step
  change unitsOfCode (code - 1) + unitsOfCode code + _ = _
  omega

theorem low_ofCode_le (code : Nat) :
    (ofCode code).low ≤ 2 * unitsOfCode code := by
  have before := unitsOfCode_strictMono.monotone (Nat.sub_le code 1)
  change unitsOfCode (code - 1) + unitsOfCode code ≤ _
  omega

theorem closed_ofCode (code : Nat) :
    (ofCode code).closed = true ↔ code % 2 = 0 :=
  decide_eq_true_iff

end Interval

/-! ## Rounding finds a code -/

/-- The exponent of the binade in which a quotient of units lies. -/
def binadeOf (numerator denominator : Nat) : Nat :=
  (numerator / denominator).log2 - 52

section

variable (numerator : Nat) {denominator : Nat}
  (positive : 0 < denominator)
include positive

/-- In spacings of its binade a quotient has at most fifty-three bits. -/
theorem lt_of_binadeOf :
    numerator <
      2 * fractionCount *
        (denominator * Nat.pow 2 (binadeOf numerator denominator)) := by
  have above := Nat.lt_log2_self (n := numerator / denominator)
  have bits :
      2 ^ ((numerator / denominator).log2 + 1) ≤
        2 ^ (binadeOf numerator denominator + 53) := by
    apply Nat.pow_le_pow_right Nat.zero_lt_two
    unfold binadeOf
    omega
  have below :=
    (Nat.div_lt_iff_lt_mul positive).mp (above.trans_le bits)
  refine below.trans_eq ?_
  change _ = 2 * 2 ^ 52 * (denominator * 2 ^ binadeOf numerator denominator)
  ring

/-- In spacings of its binade a quotient has no fewer bits, if it can. -/
theorem le_of_binadeOf :
    binadeOf numerator denominator = 0 ∨
      fractionCount *
          (denominator * Nat.pow 2 (binadeOf numerator denominator)) ≤
        numerator := by
  rcases Nat.eq_zero_or_pos (binadeOf numerator denominator) with
    first | later
  · exact .inl first
  · refine .inr ?_
    have exponent :
        (numerator / denominator).log2 =
          binadeOf numerator denominator + 52 := by
      unfold binadeOf at later ⊢
      omega
    have nonzero : numerator / denominator ≠ 0 := by
      intro zero
      rw [zero] at exponent
      change 0 = _ + 52 at exponent
      omega
    have above := Nat.log2_self_le nonzero
    rw [exponent, Nat.le_div_iff_mul_le positive] at above
    refine Eq.trans_le ?_ above
    change 2 ^ 52 * (denominator * 2 ^ binadeOf numerator denominator) = _
    ring

/-- The mantissa of a rounded quotient is full, or has no leading bit. -/
theorem full_roundHalfEven :
    let exponent := binadeOf numerator denominator
    let scale := denominator * Nat.pow 2 exponent
    Full exponent (roundHalfEven numerator scale) ∧
      roundHalfEven numerator scale ≤ 2 * fractionCount := by
  intro exponent scale
  have scale_pos : 0 < scale :=
    Nat.mul_pos positive (Nat.pow_pos Nat.zero_lt_two)
  rcases roundHalfEven_bounds numerator scale_pos with ⟨upper, lower, _⟩
  constructor
  · refine (le_of_binadeOf numerator positive).imp_right fun below => ?_
    by_contra less
    have short :
        (roundHalfEven numerator scale + 1) * scale ≤
          fractionCount * scale :=
      Nat.mul_le_mul_right scale (Nat.lt_of_not_le less)
    rw [Nat.add_one_mul] at short
    change fractionCount * scale ≤ numerator at below
    omega
  · by_contra more
    have long :
        (2 * fractionCount + 1) * scale ≤
          roundHalfEven numerator scale * scale :=
      Nat.mul_le_mul_right scale (Nat.lt_of_not_le more)
    have above : numerator < 2 * fractionCount * scale :=
      lt_of_binadeOf numerator positive
    rw [Nat.add_one_mul] at long
    omega

end

section Binade

variable {exponent mantissa numerator denominator scale code : Nat}
  (positive : 0 < denominator) (full : Full exponent mantissa)
  (le : mantissa ≤ 2 * fractionCount)
  (scale_eq : scale = denominator * Nat.pow 2 exponent)
  (code_eq : code = exponent * fractionCount + mantissa)
include full le scale_eq code_eq

theorem units_binade :
    unitsOfCode code * denominator = mantissa * scale := by
  rw [code_eq, unitsOfCode_binade full le, Nat.mul_assoc, scale_eq,
    Nat.mul_comm denominator]

/-- Above its magnitude, an interval reaches half a spacing at least. -/
theorem le_high_binade :
    2 * (mantissa * scale) + scale ≤
      (Interval.ofCode code).high * denominator := by
  have units := units_binade full le scale_eq code_eq
  have spaced := le_spacing_binade full le
  rw [← code_eq] at spaced
  rw [Interval.high_ofCode, Nat.add_mul, Nat.mul_assoc, units, scale_eq,
    Nat.mul_comm (spacing code)]
  exact Nat.add_le_add_left (Nat.mul_le_mul_left denominator spaced) _

/-- Below it, an interval reaches half a spacing if its binade goes on. -/
theorem low_binade (more : Full exponent (mantissa - 1))
    (mantissa_pos : 0 < mantissa) :
    (Interval.ofCode code).low * denominator + scale =
      2 * (mantissa * scale) := by
  have units := units_binade full le scale_eq code_eq
  have code_pos : 0 < code := by omega
  have before : code - 1 = exponent * fractionCount + (mantissa - 1) := by
    omega
  have spaced : spacing (code - 1) = Nat.pow 2 exponent := by
    rw [before]
    exact spacing_binade more (by omega)
  have ends := Interval.low_ofCode code_pos
  rw [spaced] at ends
  rw [← units, ← Nat.mul_assoc, ← ends, Nat.add_mul, scale_eq,
    Nat.mul_comm denominator]

include positive in
/-- An interval that begins with its own magnitude is that of zero. -/
theorem closed_of_low_eq
    (same :
      (Interval.ofCode code).low * denominator = 2 * (mantissa * scale)) :
    (Interval.ofCode code).closed = true := by
  rw [← units_binade full le scale_eq code_eq, ← Nat.mul_assoc] at same
  have equal := Nat.eq_of_mul_eq_mul_right positive same
  rcases Nat.eq_zero_or_pos code with zero | code_pos
  · rw [zero, Interval.closed_ofCode]
  · have ends := Interval.low_ofCode code_pos
    have gap := spacing_pos (code - 1)
    omega

include positive in
/--
A mantissa that differs from a quotient by half a spacing at most, and by half
a spacing only if it is even, has the quotient in the interval of its code.  A
quotient below the mantissa still lies in its binade.
-/
theorem holds_binade
    (start : exponent = 0 ∨ fractionCount * scale ≤ numerator)
    (upper : 2 * (mantissa * scale) ≤ 2 * numerator + scale)
    (lower : 2 * numerator ≤ 2 * (mantissa * scale) + scale)
    (tie :
      2 * (mantissa * scale) = 2 * numerator + scale ∨
          2 * numerator = 2 * (mantissa * scale) + scale →
        mantissa % 2 = 0) :
    (Interval.ofCode code).Holds numerator denominator := by
  have high := le_high_binade full le scale_eq code_eq
  have closed : mantissa % 2 = 0 → (Interval.ofCode code).closed = true := by
    intro even
    rw [Interval.closed_ofCode, code_eq]
    simp only [fractionCount]
    omega
  rcases Nat.lt_or_ge numerator (mantissa * scale) with down | up
  · have mantissa_pos : 0 < mantissa :=
      Nat.pos_of_mul_pos_right (Nat.zero_lt_of_lt down)
    have more : Full exponent (mantissa - 1) := by
      refine start.imp_right fun below => Nat.le_sub_one_of_lt ?_
      exact Nat.lt_of_mul_lt_mul_right (below.trans_lt down)
    have low := low_binade full le scale_eq code_eq more mantissa_pos
    refine Interval.holds_of_ends (by omega) (lower.trans high) ?_
    intro atEnd
    apply closed
    apply tie
    omega
  · have low :
        (Interval.ofCode code).low * denominator ≤
          2 * (mantissa * scale) := by
      rw [← units_binade full le scale_eq code_eq, ← Nat.mul_assoc]
      exact Nat.mul_le_mul_right denominator (Interval.low_ofCode_le code)
    refine Interval.holds_of_ends (by omega) (lower.trans high) ?_
    rintro (atLow | atHigh)
    · apply closed_of_low_eq positive full le scale_eq code_eq
      omega
    · apply closed
      apply tie
      omega

end Binade

/-- The code that a quotient is rounded to, were there no infinity. -/
theorem exists_holds (numerator : Nat) {denominator : Nat}
    (positive : 0 < denominator) :
    ∃ code,
      (Interval.ofCode code).Holds numerator denominator ∧
        nearestCode numerator denominator = min infinityCode code := by
  let exponent := binadeOf numerator denominator
  have scale_pos : 0 < denominator * Nat.pow 2 exponent :=
    Nat.mul_pos positive (Nat.pow_pos Nat.zero_lt_two)
  rcases full_roundHalfEven numerator positive with ⟨full, le⟩
  rcases roundHalfEven_bounds numerator scale_pos with ⟨upper, lower, tie⟩
  have start := le_of_binadeOf numerator positive
  exact ⟨_, holds_binade positive full le rfl rfl start upper lower tie,
    rfl⟩

/-! ## How near the nearest number is -/

/-- The error of rounding, in relation to the rounded magnitude. -/
structure Near (rounded exact : Nat) : Prop where
  upper :
    2 * fractionCount * exact ≤ 2 * fractionCount * rounded + rounded
  lower :
    2 * fractionCount * rounded ≤ 2 * fractionCount * exact + rounded

theorem Near.mul_right {rounded exact : Nat} (near : Near rounded exact)
    (factor : Nat) : Near (rounded * factor) (exact * factor) where
  upper := by
    have scaled := Nat.mul_le_mul_right factor near.upper
    rwa [Nat.add_mul, Nat.mul_assoc _ exact, Nat.mul_assoc _ rounded]
      at scaled
  lower := by
    have scaled := Nat.mul_le_mul_right factor near.lower
    rwa [Nat.add_mul, Nat.mul_assoc _ exact, Nat.mul_assoc _ rounded]
      at scaled

section

variable {code numerator denominator : Nat}
  (holds : (Interval.ofCode code).Holds numerator denominator)
include holds

/-- A quotient of a full binade is nearest to a code of one. -/
theorem fractionCount_le_of_holds (positive : 0 < denominator)
    (large : fractionCount * denominator ≤ numerator) :
    fractionCount ≤ code := by
  by_contra small
  have before : code < fractionCount := Nat.lt_of_not_le small
  have high := holds.le_high
  rw [Interval.high_ofCode, unitsOfCode_of_lt before,
    spacing_of_lt before] at high
  have reach : 2 * code + 1 < 2 * fractionCount := by omega
  have less := Nat.mul_lt_mul_of_pos_right reach positive
  rw [Nat.mul_assoc] at less
  omega

/-- A quotient below a magnitude is nearest to no code above it. -/
theorem le_of_holds_of_lt {bound : Nat}
    (below : numerator < unitsOfCode bound * denominator) :
    code ≤ bound := by
  by_contra above
  have low := holds.low_le
  have ordered : 2 * unitsOfCode bound ≤ (Interval.ofCode code).low := by
    have first :=
      unitsOfCode_strictMono.monotone
        (Nat.le_sub_one_of_lt (Nat.lt_of_not_le above))
    have second := unitsOfCode_strictMono (Nat.lt_of_not_le above)
    change _ ≤ unitsOfCode (code - 1) + unitsOfCode code
    omega
  have product := Nat.mul_le_mul_right denominator ordered
  rw [Nat.mul_assoc] at product
  omega

/-- A quotient nearest to a full magnitude is near to it. -/
theorem near_of_holds (normal : fractionCount ≤ code) :
    Near (unitsOfCode code * denominator) numerator := by
  have low := holds.low_le
  have high := holds.le_high
  have ends :=
    congrArg (· * denominator)
      (Interval.low_ofCode (Nat.zero_lt_of_lt normal))
  have gaps :=
    Nat.mul_le_mul_right denominator (spacing_mono (Nat.sub_le code 1))
  have fine :=
    Nat.mul_le_mul_right denominator (fractionCount_mul_spacing_le normal)
  rw [Nat.mul_assoc] at fine
  rw [Interval.high_ofCode] at high
  constructor <;>
    simp only [Nat.add_mul, Nat.mul_assoc, fractionCount] at * <;>
    omega

end

/--
A quotient of a full binade, below a finite magnitude, is rounded to a finite
code of a full binade.
-/
theorem exists_nearest {numerator denominator bound : Nat}
    (positive : 0 < denominator)
    (large : fractionCount * denominator ≤ numerator)
    (below : numerator < unitsOfCode bound * denominator)
    (finite : bound < infinityCode) :
    ∃ code,
      nearestCode numerator denominator = code ∧
        (Interval.ofCode code).Holds numerator denominator ∧
        fractionCount ≤ code ∧ code < infinityCode := by
  rcases exists_holds numerator positive with ⟨code, holds, nearest⟩
  have bounded := (le_of_holds_of_lt holds below).trans_lt finite
  rw [Nat.min_eq_right bounded.le] at nearest
  exact ⟨code, nearest, holds,
    fractionCount_le_of_holds holds positive large, bounded⟩

end Chip8.Binary64
