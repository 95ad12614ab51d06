import Chip8.Datum.Forms
import Chip8.Proofs.Datum.Reading
import Chip8.Proofs.Pacer.Accounting
import Chip8.Proofs.Speed.Approximation

/-!
# Speeds are canonical

A speed can be asked for as a ratio, a whole number, a floating-point number,
a text or a datum, the datum alone or inside another one.  Each of these comes
to a ratio of two positive parts, and the speed is this ratio in lowest terms.
So there is one speed for each value, and speeds can be compared by their
parts.
-/

namespace Chip8

namespace Speed

open Datum

/-! ## Ratios in lowest terms -/

/-- A speed is a ratio of positive parts, brought to lowest terms. -/
structure Reduces (speed : Speed) (numerator denominator : Nat) : Prop where
  parts_pos : 0 < numerator ∧ 0 < denominator
  numerator_eq :
    speed.numerator = numerator / euclid numerator denominator
  denominator_eq :
    speed.denominator = denominator / euclid numerator denominator
  value_eq : speed.value = numerator / denominator
  one_le : 1 ≤ speed.numerator ∧ 1 ≤ speed.denominator
  gcd_eq_one : Nat.gcd speed.numerator speed.denominator = 1

/-- The parts of a ratio in lowest terms are found from their value. -/
theorem reduces_of_ofRatio {numerator denominator : UInt32} {speed : Speed}
    (made : ofRatio numerator denominator = .ok speed) :
    speed.Reduces numerator.toNat denominator.toNat := by
  have positive := (ofRatio_eq_ok_iff numerator denominator).mp ⟨speed, made⟩
  have value_eq := value_of_ofRatio made
  unfold ofRatio at made
  split at made
  · cases made
  · split at made
    · cases made
    · cases made
      exact {
        parts_pos := positive
        numerator_eq := rfl
        denominator_eq := rfl
        value_eq := value_eq
        one_le := ⟨Speed.numerator_pos _, Speed.denominator_pos _⟩
        gcd_eq_one := Speed.coprime _ }

theorem reduces_of_ofWhole {whole : UInt32} {speed : Speed}
    (made : ofWhole whole = .ok speed) :
    speed.Reduces whole.toNat 1 :=
  reduces_of_ofRatio made

theorem reduces_of_ofBinary64 {number : Binary64} {speed : Speed}
    (made : ofBinary64 number = .ok speed) :
    speed.Reduces (number.scale thousand).nearestWhole thousand := by
  rcases ofRatio_of_ofBinary64 made with ⟨admissible, ratio⟩
  have reduces := reduces_of_ofRatio ratio
  rw [toNat_ofNat admissible.2.2, toNat_ofNat (by decide)] at reduces
  exact reduces

/-! ## Texts -/

/-- The ratio that the characters of a number come to. -/
inductive Spelled (number : List Char) : Nat → Nat → Prop where
  | fraction {left right : List Char} {numerator denominator : UInt32}
      (split : splitSlash? number = some (left, right))
      (upper : part? (Text.trim left) = some numerator)
      (lower : part? (Text.trim right) = some denominator) :
      Spelled number numerator.toNat denominator.toNat
  | whole {whole : UInt32} (unsplit : splitSlash? number = none)
      (part : part? number = some whole) : Spelled number whole.toNat 1
  | approximate {value : Binary64} (unsplit : splitSlash? number = none)
      (noPart : part? number = none)
      (read : Binary64.ofText? number = some value) :
      Spelled number (value.scale thousand).nearestWhole thousand

theorem reduces_of_ofText {text : String} {speed : Speed}
    (made : ofText text = .ok speed) :
    ∃ numerator denominator,
      Spelled (core text.toList) numerator denominator ∧
        speed.Reduces numerator denominator := by
  unfold ofText at made
  dsimp only at made
  split at made
  next left right splitting =>
    split at made
    next numerator denominator upper lower =>
      exact ⟨_, _, .fraction splitting upper lower, reduces_of_ofRatio made⟩
    next => cases made
  next unsplit =>
    split at made
    next whole part =>
      exact ⟨_, _, .whole unsplit part, reduces_of_ofWhole made⟩
    next noPart =>
      split at made
      next value read =>
        exact ⟨_, _, .approximate unsplit noPart read,
          reduces_of_ofBinary64 made⟩
      next => cases made

/-! ## Data -/

/-- A speed is the ratio that a datum has the parts of. -/
def FromDatum (datum : Datum) (speed : Speed) : Prop :=
  ∃ numerator denominator,
    Supplies fields datum "numerator" (.nat numerator) ∧
      Supplies fields datum "denominator" (.nat denominator) ∧
      speed.Reduces numerator denominator

theorem fromDatum_of_ofDatum {datum : Datum} {speed : Speed}
    (read : Speed.ofDatum datum = .ok speed) : FromDatum datum speed := by
  have supplied :
      ∃ draft : Speed.Draft,
        ((∀ part, draft.numerator = some part →
            Supplies fields datum "numerator" (.nat part.toNat)) ∧
          ∀ part, draft.denominator = some part →
            Supplies fields datum "denominator" (.nat part.toNat)) ∧
        draft.finish = .ok speed := by
    apply readRecord_induction read ⟨nofun, nofun⟩
    rintro field value offers change update draft ⟨upper, lower⟩
    have declared := offers.declared
    simp only [fields, List.mem_cons, List.not_mem_nil, or_false]
      at declared
    rcases declared with rfl | rfl
    · rcases exists_of_map_eq_ok update with ⟨part, accepted, rfl⟩
      refine ⟨?_, lower⟩
      rintro _ ⟨⟩
      rw [readUInt32_eq_ok_iff.mp accepted] at offers
      exact ⟨_, rfl, offers⟩
    · rcases exists_of_map_eq_ok update with ⟨part, accepted, rfl⟩
      refine ⟨upper, ?_⟩
      rintro _ ⟨⟩
      rw [readUInt32_eq_ok_iff.mp accepted] at offers
      exact ⟨_, rfl, offers⟩
  rcases supplied with ⟨draft, ⟨upper, lower⟩, finished⟩
  rcases exists_of_bind_eq_ok finished with ⟨numerator, first, finished⟩
  rcases exists_of_bind_eq_ok finished with ⟨denominator, second, made⟩
  exact ⟨_, _, upper numerator (required_eq_ok_iff.mp first),
    lower denominator (required_eq_ok_iff.mp second),
    reduces_of_ofRatio (eq_ok_of_mapError_eq_ok made)⟩

/-- A speed comes from the datum that another one has for a field. -/
def FromField {δ : Type} (fields : List (RecordField δ)) (name : String)
    (datum : Datum) (speed : Speed) : Prop :=
  ∃ nested, Supplies fields datum name nested ∧ FromDatum nested speed

theorem fromField_of_pace {datum : Datum} {pace : Pace}
    (read : Pace.ofDatum datum = .ok pace) :
    FromField Pace.fields "speed" datum pace.speed := by
  have supplied :
      ∃ draft : Pace.Draft,
        (∀ speed, draft.speed = some speed →
          FromField Pace.fields "speed" datum speed) ∧
        draft.finish = .ok pace := by
    apply readRecord_induction read nofun
    intro field value offers change update draft before
    have declared := offers.declared
    simp only [Pace.fields, List.mem_cons, List.not_mem_nil, or_false]
      at declared
    rcases declared with rfl | rfl
    · rcases exists_of_map_eq_ok update with ⟨mode, _, rfl⟩
      exact before
    · rcases exists_of_map_eq_ok update with ⟨speed, accepted, rfl⟩
      rintro _ ⟨⟩
      exact ⟨value, ⟨_, rfl, offers⟩, fromDatum_of_ofDatum accepted⟩
  rcases supplied with ⟨draft, supplied, finished⟩
  rcases exists_of_bind_eq_ok finished with ⟨mode, _, finished⟩
  rcases exists_of_bind_eq_ok finished with ⟨speed, second, same⟩
  cases same
  exact supplied speed (required_eq_ok_iff.mp second)

/-- The speed of a configuration is normal unless a datum has another. -/
def Configured (datum : Datum) (config : Config) : Prop :=
  config.initialSpeed = .normal ∨
    FromField Config.fields "initial_speed" datum config.initialSpeed

theorem configured_of_ofDatum {datum : Datum} {config : Config}
    (read : Config.ofDatum datum = .ok config) :
    Configured datum config := by
  refine readOverlay_induction read (.inl rfl) ?_
  intro field value offers change update config before
  have declared := offers.declared
  simp only [Config.fields, List.mem_cons, List.not_mem_nil, or_false]
    at declared
  rcases declared with rfl | rfl | rfl | rfl | rfl
  case inr.inl =>
    rcases exists_of_map_eq_ok update with ⟨speed, accepted, rfl⟩
    exact .inr ⟨value, ⟨_, rfl, offers⟩, fromDatum_of_ofDatum accepted⟩
  all_goals
    rcases exists_of_map_eq_ok update with ⟨_, _, rfl⟩
    exact before

theorem reduces_normal : normal.Reduces 1 1 :=
  reduces_of_ofRatio (ofRatio_parts normal)

/-! ## Equal speeds -/

/-- Ratios make the same speed exactly if their cross products agree. -/
theorem ofRatio_eq_ofRatio_iff {a b c d : UInt32} (a_pos : 0 < a.toNat)
    (b_pos : 0 < b.toNat) (c_pos : 0 < c.toNat) (d_pos : 0 < d.toNat) :
    ofRatio a b = ofRatio c d ↔
      a.toNat * d.toNat = c.toNat * b.toNat := by
  rcases exists_ofRatio a_pos b_pos with ⟨left, madeLeft, leftValue⟩
  rcases exists_ofRatio c_pos d_pos with ⟨right, madeRight, rightValue⟩
  rw [madeLeft, madeRight, Except.ok.injEq, ← value_inj, leftValue,
    rightValue, quotient_eq_iff b_pos d_pos]

end Speed

namespace Pacer

variable {σ ε : Type}

/-- A change of speed is told exactly if the value becomes another one. -/
theorem events_changeSpeed (machine : Machine σ ε) (pacer : Pacer σ)
    (speed : Speed) :
    (pacer.perform machine (.changeSpeed speed)).events =
      if speed.value = pacer.pace.speed.value then
        []
      else
        [.speedChanged pacer.pace.speed speed] := by
  simp only [Speed.value_inj]
  rfl

end Pacer

/--
Speeds are canonical.  However a speed was made, it is the ratio that was
asked for in lowest terms: the ratio of two parts, a whole number over one,
the nearest thousandth of a floating-point number, the ratio that a text
spells, and the ratio in a datum, be it alone, in a pace or in a
configuration.  Its value is the one of the ratio, so that ratios make equal
speeds exactly if they are equal.  In a run the speed in force is the last one
chosen; so the divisor by which its cycles are counted is positive, and a
change of speed is told of exactly if the value changes.
-/
theorem Speed.canonical_of_any_origin {σ ε : Type} (machine : Machine σ ε)
    (config : Config) (state : σ) (commands : List Command) :
    let now := (Pacer.start config state).runAll machine commands
    (∀ numerator denominator speed,
      ofRatio numerator denominator = .ok speed →
        speed.Reduces numerator.toNat denominator.toNat) ∧
      (∀ whole speed, ofWhole whole = .ok speed →
        speed.Reduces whole.toNat 1) ∧
      (∀ number speed, ofBinary64 number = .ok speed →
        speed.Reduces (number.scale thousand).nearestWhole thousand) ∧
      (∀ text speed, ofText text = .ok speed →
        ∃ numerator denominator,
          Spelled (core text.toList) numerator denominator ∧
            speed.Reduces numerator denominator) ∧
      (∀ datum speed, Speed.ofDatum datum = .ok speed →
        FromDatum datum speed) ∧
      (∀ datum pace, Pace.ofDatum datum = .ok pace →
        FromField Pace.fields "speed" datum pace.speed) ∧
      (∀ datum config, Config.ofDatum datum = .ok config →
        config.initialSpeed.Reduces 1 1 ∨
          FromField Config.fields "initial_speed" datum
            config.initialSpeed) ∧
      (∀ a b : UInt32, 0 < a.toNat → 0 < b.toNat →
        ∃ speed, ofRatio a b = .ok speed ∧
          speed.value = (a.toNat : ℚ) / b.toNat) ∧
      (∀ a b c d : UInt32, 0 < a.toNat → 0 < b.toNat → 0 < c.toNat →
        0 < d.toNat →
          (ofRatio a b = ofRatio c d ↔
            a.toNat * d.toNat = b.toNat * c.toNat)) ∧
      now.pace.speed = lastSpeed config.initialSpeed commands ∧
      0 < 2 * now.pace.speed.denominator ∧
      ∀ speed,
        (now.perform machine (.changeSpeed speed)).events =
          if speed.value = now.pace.speed.value then
            []
          else
            [.speedChanged now.pace.speed speed] := by
  intro now
  refine ⟨fun _ _ _ made => reduces_of_ofRatio made,
    fun _ _ made => reduces_of_ofWhole made,
    fun _ _ made => reduces_of_ofBinary64 made,
    fun _ _ made => reduces_of_ofText made,
    fun _ _ read => fromDatum_of_ofDatum read,
    fun _ _ read => fromField_of_pace read, ?_,
    fun _ _ a_pos b_pos => exists_ofRatio a_pos b_pos, ?_,
    Pacer.speed_runAll machine _ commands, ?_,
    now.events_changeSpeed machine⟩
  · intro datum config read
    rcases configured_of_ofDatum read with normal | given
    · left
      rw [normal]
      exact reduces_normal
    · right
      exact given
  · intro a b c d a_pos b_pos c_pos d_pos
    rw [ofRatio_eq_ofRatio_iff a_pos b_pos c_pos d_pos,
      Nat.mul_comm c.toNat]
  · exact Nat.mul_pos (by decide) now.pace.speed.denominator_pos

end Chip8
