import Chip8.Binary64.Shortest
import Chip8.Text.Quoted

/-!
# Speeds

A speed is a positive rational in lowest terms whose parts fit in thirty-two
bits.  It multiplies the number of cycles of a pulse; the product is rounded
to the nearest whole number, a half going up, and saturates.

A ratio is brought to lowest terms by Euclid's algorithm, which finds the
greatest common divisor of its parts: `euclid_eq_gcd`.  `ofRatio_eq_ok_iff`
says which pairs of parts make a speed, and `ofRatio_cross` that the speed has
the value of the pair.
-/

namespace Chip8

/--
The greatest part of a speed, and the greatest cycle count: both have
thirty-two bits.
-/
def greatestCount : Nat :=
  4294967295

/-! ## Errors -/

/-- Why no speed could be made. -/
inductive SpeedError where
  | zeroNumerator
  | zeroDenominator
  | notFinite
  | notPositive
  /-- The nearest thousandth is zero or has too great a numerator. -/
  | outOfRange (value : Binary64)
  /-- The text is not of the form of a speed. -/
  | unreadable (text : String)
deriving DecidableEq, Repr

/-- The text of an error; an unreadable text is quoted as it was given. -/
def SpeedError.message : SpeedError → String
  | .zeroNumerator => "speed numerator must be positive"
  | .zeroDenominator => "speed denominator must be positive"
  | .notFinite => "speed must be a finite number"
  | .notPositive => "speed must be greater than zero"
  | .outOfRange value =>
      "speed " ++ value.text ++ " is outside the supported range"
  | .unreadable text => "cannot parse speed from " ++ Text.quote text

/-! ## Speeds as reduced ratios -/

/-- A positive rational in lowest terms. -/
structure Speed where
  numerator : Nat
  denominator : Nat
  numerator_pos : 0 < numerator
  denominator_pos : 0 < denominator
  numerator_le : numerator ≤ greatestCount
  denominator_le : denominator ≤ greatestCount
  coprime : Nat.Coprime numerator denominator
deriving DecidableEq, Repr

namespace Speed

/-- Go on with the second part and the remainder until there is none. -/
def euclid (first second : Nat) : Nat :=
  if _ : 0 < second then euclid second (first % second) else first
termination_by second
decreasing_by exact Nat.mod_lt _ ‹_›

theorem euclid_eq_gcd (first second : Nat) :
    euclid first second = Nat.gcd first second := by
  fun_induction euclid first second with
  | case1 first second positive ih =>
      rw [ih, Nat.gcd_comm, ← Nat.gcd_rec, Nat.gcd_comm]
  | case2 first second zero =>
      rw [Nat.eq_zero_of_not_pos zero, Nat.gcd_zero_right]

/-- Reduce a ratio of positive parts to lowest terms. -/
def reduce (numerator denominator : Nat)
    (numerator_pos : 0 < numerator) (denominator_pos : 0 < denominator)
    (numerator_le : numerator ≤ greatestCount)
    (denominator_le : denominator ≤ greatestCount) : Speed where
  numerator := numerator / euclid numerator denominator
  denominator := denominator / euclid numerator denominator
  numerator_pos := by
    rw [euclid_eq_gcd]
    exact Nat.div_pos (Nat.gcd_le_left _ numerator_pos)
      (Nat.gcd_pos_of_pos_left _ numerator_pos)
  denominator_pos := by
    rw [euclid_eq_gcd]
    exact Nat.div_pos (Nat.gcd_le_right _ denominator_pos)
      (Nat.gcd_pos_of_pos_left _ numerator_pos)
  numerator_le := Nat.le_trans (Nat.div_le_self _ _) numerator_le
  denominator_le := Nat.le_trans (Nat.div_le_self _ _) denominator_le
  coprime := by
    rw [euclid_eq_gcd]
    exact Nat.coprime_div_gcd_div_gcd
      (Nat.gcd_pos_of_pos_left _ numerator_pos)

theorem toNat_le_greatestCount (part : UInt32) :
    part.toNat ≤ greatestCount := by
  have := part.toNat_lt
  simp only [greatestCount]
  omega

/-- The speed with a given ratio; a zero denominator is reported first. -/
def ofRatio (numerator denominator : UInt32) : Except SpeedError Speed :=
  if noDenominator : denominator.toNat = 0 then
    .error .zeroDenominator
  else if noNumerator : numerator.toNat = 0 then
    .error .zeroNumerator
  else
    .ok <| reduce numerator.toNat denominator.toNat
      (Nat.pos_of_ne_zero noNumerator) (Nat.pos_of_ne_zero noDenominator)
      (toNat_le_greatestCount numerator)
      (toNat_le_greatestCount denominator)

/-- The speed with a whole number as its value. -/
def ofWhole (value : UInt32) : Except SpeedError Speed :=
  ofRatio value 1

/-! ## Named speeds -/

/-- Half of normal speed. -/
def half : Speed :=
  ⟨1, 2, by decide, by decide, by decide, by decide, by decide⟩

/-- Normal speed, in force unless another is chosen. -/
def normal : Speed :=
  ⟨1, 1, by decide, by decide, by decide, by decide, by decide⟩

/-- Twice normal speed. -/
def double : Speed :=
  ⟨2, 1, by decide, by decide, by decide, by decide, by decide⟩

/-- Three times normal speed. -/
def triple : Speed :=
  ⟨3, 1, by decide, by decide, by decide, by decide, by decide⟩

/-- The usual choices, slowest first. -/
def presets : List Speed :=
  [half, normal, double, triple]

instance : Inhabited Speed :=
  ⟨normal⟩

/-! ## Cycles -/

/-- Cycles of a pulse whose normal count is `base`. -/
def cycles (speed : Speed) (base : UInt32) : Nat :=
  min greatestCount
    (roundHalfUp (base.toNat * speed.numerator) speed.denominator)

/-- The floating-point number nearest to a speed. -/
def toBinary64 (speed : Speed) : Binary64 :=
  .ofRatio speed.numerator speed.denominator

/-! ## The value of a reduced ratio -/

@[ext]
theorem ext {left right : Speed}
    (numerators : left.numerator = right.numerator)
    (denominators : left.denominator = right.denominator) :
    left = right := by
  cases left
  cases right
  simp_all

/-- Reducing keeps the value. -/
theorem ofRatio_cross {numerator denominator : UInt32} {speed : Speed}
    (made : ofRatio numerator denominator = .ok speed) :
    speed.numerator * denominator.toNat =
      numerator.toNat * speed.denominator := by
  unfold ofRatio at made
  split at made
  · contradiction
  · split at made
    · contradiction
    · cases made
      simp only [reduce, euclid_eq_gcd]
      rw [← Nat.mul_div_assoc _ (Nat.gcd_dvd_right _ _), Nat.mul_comm,
        ← Nat.mul_div_assoc _ (Nat.gcd_dvd_left _ _), Nat.mul_comm]

/-- Exactly the ratios of two positive parts are speeds. -/
theorem ofRatio_eq_ok_iff (numerator denominator : UInt32) :
    (∃ speed, ofRatio numerator denominator = .ok speed) ↔
      0 < numerator.toNat ∧ 0 < denominator.toNat := by
  unfold ofRatio
  split
  · simp_all
  · split
    · simp_all
    · simp only [Except.ok.injEq, exists_eq', true_iff]
      omega

end Speed

end Chip8
