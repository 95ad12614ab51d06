import Chip8.Proofs.PulseClock.Advance

/-!
# The time until the next pulse

A sound clock carries less than a period, so what remains of the period is the
time until its next pulse: no shorter time brings a pulse, and this time brings
one pulse and leaves a whole period.  A host can therefore sleep for as long
as a clock says and neither miss a pulse nor wake too early.
-/

namespace Chip8.PulseClock

variable {clock : PulseClock} {elapsed : Duration} {brought : Advance}

theorem remaining_le_period (clock : PulseClock) :
    clock.remaining.nanoseconds ≤ clock.period.nanoseconds :=
  Nat.sub_le _ _

namespace Sound

variable (sound : clock.Sound)
include sound

theorem carry_add_remaining :
    clock.carried clock.remaining = clock.period.nanoseconds :=
  Nat.add_sub_cancel' (Nat.le_of_lt sound.carry_lt)

theorem remaining_pos : 0 < clock.remaining.nanoseconds :=
  Nat.sub_pos_of_lt sound.carry_lt

theorem carried_lt_period_iff :
    clock.carried elapsed < clock.period.nanoseconds ↔
      elapsed.nanoseconds < clock.remaining.nanoseconds := by
  rw [← sound.carry_add_remaining]
  exact Nat.add_lt_add_iff_left

theorem due_eq_zero_iff :
    clock.due elapsed = 0 ↔
      elapsed.nanoseconds < clock.remaining.nanoseconds := by
  rw [due, Nat.div_eq_zero_iff, ← sound.carried_lt_period_iff]
  exact or_iff_right (Nat.ne_of_gt sound.period_pos)

/-! ## Before the next pulse -/

/-- As a limit lets a pulse through, none is delivered only if none is due. -/
theorem pulses_eq_zero_iff
    (advanced : clock.advance elapsed = .ok brought) :
    brought.pulses = 0 ↔
      elapsed.nanoseconds < clock.remaining.nanoseconds := by
  have limit_pos := sound.limit_pos
  rw [← sound.due_eq_zero_iff, ← UInt32.toNat_inj,
    pulses_of_advance advanced]
  change min clock.limit.toNat (clock.due elapsed) = 0 ↔ _
  omega

/-- Time without a pulse is taken off the remaining time. -/
theorem remaining_add_elapsed
    (advanced : clock.advance elapsed = .ok brought)
    (early : elapsed.nanoseconds < clock.remaining.nanoseconds) :
    brought.clock.remaining.nanoseconds + elapsed.nanoseconds =
      clock.remaining.nanoseconds := by
  have short := sound.carried_lt_period_iff.mpr early
  have none := sound.due_eq_zero_iff.mpr early
  rcases cases_of_advance advanced with ⟨-, delivers⟩ | ⟨beyond, -⟩
  · have carry := delivers.carry_eq
    rw [Nat.mod_eq_of_lt short] at carry
    change
      brought.clock.period.nanoseconds - brought.clock.carry.nanoseconds +
        elapsed.nanoseconds =
      clock.period.nanoseconds - clock.carry.nanoseconds
    rw [delivers.period_eq, carry]
    simp only [carried] at short ⊢
    omega
  · rw [none] at beyond
    exact absurd beyond (Nat.not_lt_zero _)

/-! ## At the next pulse -/

/-- The remaining time brings one pulse, and nothing is carried on. -/
theorem advance_remaining :
    ∃ brought,
      clock.advance clock.remaining = .ok brought ∧
        brought.pulses = 1 ∧
        brought.clock.remaining = clock.period ∧
        brought.clock.period = clock.period ∧ brought.events = [] := by
  have total := sound.carry_add_remaining
  have one : clock.due clock.remaining = 1 := by
    rw [due, total, Nat.div_self sound.period_pos]
  have inRange : clock.carried clock.remaining ≤ greatestNanoseconds := by
    rw [total]
    exact clock.period.nanoseconds_le
  have within : clock.due clock.remaining ≤ clock.limit.toNat := by
    rw [one]
    exact sound.limit_pos
  rcases advance_of_le inRange within with ⟨brought, advanced, delivers⟩
  have pulses : brought.pulses.toNat = 1 := delivers.pulses_eq.trans one
  have carry : brought.clock.carry.nanoseconds = 0 := by
    rw [delivers.carry_eq, total, Nat.mod_self]
  have remaining : brought.clock.remaining = clock.period := by
    apply Duration.ext
    change
      brought.clock.period.nanoseconds -
        brought.clock.carry.nanoseconds = _
    rw [carry, delivers.period_eq, Nat.sub_zero]
  exact ⟨brought, advanced, UInt32.toNat_inj.mp pulses, remaining,
    delivers.period_eq, delivers.events_eq⟩

end Sound

/--
The time that remains until the next pulse of a reachable clock is exact.  It
is not zero and at most a period.  A time that can be added brings no pulse
just when it is shorter, and is then taken off what remains; and the remaining
time itself can always be added, brings one pulse and leaves a whole period.
-/
theorem remaining_is_exact {rate limit : UInt32}
    (reachable : Reachable rate limit clock) :
    clock.carry.nanoseconds < clock.period.nanoseconds ∧
      0 < clock.remaining.nanoseconds ∧
      clock.remaining.nanoseconds ≤ clock.period.nanoseconds ∧
      (∀ elapsed : Duration,
        clock.carry.nanoseconds + elapsed.nanoseconds ≤
            greatestNanoseconds →
          ∃ brought,
            clock.advance elapsed = .ok brought ∧
              (brought.pulses = 0 ↔
                elapsed.nanoseconds < clock.remaining.nanoseconds) ∧
              (brought.pulses = 0 →
                brought.clock.remaining.nanoseconds +
                    elapsed.nanoseconds =
                  clock.remaining.nanoseconds)) ∧
      ∃ brought,
        clock.advance clock.remaining = .ok brought ∧
          brought.pulses = 1 ∧
          brought.clock.remaining = clock.period ∧
          brought.clock.period = clock.period ∧ brought.events = [] := by
  have sound := reachable.sound
  refine ⟨sound.carry_lt, sound.remaining_pos, clock.remaining_le_period, ?_,
    sound.advance_remaining⟩
  intro elapsed inRange
  rcases advance_cases inRange with ⟨brought, advanced, -⟩
  have quiet := sound.pulses_eq_zero_iff advanced
  exact ⟨brought, advanced, quiet, fun none =>
    sound.remaining_add_elapsed advanced (quiet.mp none)⟩

/-- A clock of ten milliseconds that carries five of them. -/
theorem remaining_is_exact_half_way :
    let clock : PulseClock :=
      { (ofRate 100).withLimit 0 with carry := .ofNanoseconds 5000000 }
    Reachable 100 0 clock ∧
      clock.remaining = .ofNanoseconds 5000000 ∧
      ∃ brought,
        clock.advance clock.remaining = .ok brought ∧
          brought.pulses = 1 ∧
          brought.clock.remaining = .ofNanoseconds 10000000 := by
  intro clock
  have advanced :
      ((ofRate 100).withLimit 0).advance (.ofNanoseconds 15000000) =
        .ok ⟨1, clock, []⟩ := by
    rfl
  have reachable : Reachable 100 0 clock :=
    .advance (.withLimit 0 .start) advanced
  refine ⟨reachable, by decide +kernel, ?_⟩
  rcases remaining_is_exact reachable with
    ⟨-, -, -, -, brought, slept, pulses, remaining, -, -⟩
  exact ⟨brought, slept, pulses, remaining⟩

end Chip8.PulseClock
