import Chip8.Proofs.PulseClock.Slicing

/-!
# The rate of a clock

The period is a second divided by the rate and cut to whole nanoseconds, so a
clock is never slow and may be fast.  It is exact if the rate divides the
nanoseconds of a second; and up to the square root of these, what is cut off
adds up to less than one period in a second, so that a whole second still has
as many periods as the rate says.
-/

namespace Chip8.PulseClock

/-! ## Periods that are cut to whole nanoseconds -/

section

variable {rate : UInt32}

theorem nanoseconds_periodOf (positive : 1 ≤ rate.toNat)
    (le : rate.toNat ≤ nanosecondsPerSecond) :
    (periodOf rate).nanoseconds = nanosecondsPerSecond / rate.toNat := by
  have second : nanosecondsPerSecond ≤ greatestNanoseconds := by decide
  have short := Nat.div_le_self nanosecondsPerSecond rate.toNat
  change
    min (max 1 (nanosecondsPerSecond / max 1 rate.toNat))
      greatestNanoseconds = _
  rw [Nat.max_eq_right positive,
    Nat.max_eq_right (Nat.div_pos le positive),
    Nat.min_eq_left (short.trans second)]

variable (positive : 1 ≤ rate.toNat)
  (le : rate.toNat ≤ nanosecondsPerSecond) (time : Nat)
include positive le

/-- No period is longer than the rate asks for. -/
theorem le_div_periodOf :
    rate.toNat * time / nanosecondsPerSecond ≤
      time / (periodOf rate).nanoseconds := by
  rw [Nat.le_div_iff_mul_le (period_pos rate)]
  apply Nat.le_of_mul_le_mul_left _ positive
  calc
    rate.toNat *
          (rate.toNat * time / nanosecondsPerSecond *
            (periodOf rate).nanoseconds) =
        rate.toNat * time / nanosecondsPerSecond *
          (rate.toNat * (nanosecondsPerSecond / rate.toNat)) := by
      rw [nanoseconds_periodOf positive le, Nat.mul_left_comm]
    _ ≤ rate.toNat * time / nanosecondsPerSecond * nanosecondsPerSecond :=
      Nat.mul_le_mul_left _ (Nat.mul_div_le _ _)
    _ ≤ rate.toNat * time := Nat.div_mul_le_self _ _

theorem div_periodOf_of_dvd (divides : rate.toNat ∣ nanosecondsPerSecond) :
    time / (periodOf rate).nanoseconds =
      rate.toNat * time / nanosecondsPerSecond := by
  rcases divides with ⟨period, second⟩
  rw [nanoseconds_periodOf positive le, second,
    Nat.mul_div_cancel_left period positive,
    Nat.mul_div_mul_left time period positive]

omit time in
/--
A second has as many periods as a rate below its square root: what is cut off
of it is then shorter than a period.
-/
theorem second_div_periodOf
    (small : rate.toNat * rate.toNat ≤ nanosecondsPerSecond) :
    nanosecondsPerSecond / (periodOf rate).nanoseconds = rate.toNat := by
  rw [nanoseconds_periodOf positive le]
  have longer : rate.toNat ≤ nanosecondsPerSecond / rate.toNat :=
    (Nat.le_div_iff_mul_le positive).mpr small
  have second := Nat.div_add_mod nanosecondsPerSecond rate.toNat
  have cut := Nat.mod_lt nanosecondsPerSecond positive
  apply Nat.div_eq_of_lt_le
  · exact Nat.mul_div_le _ _
  · rw [Nat.add_one_mul]
    omega

end

/-! ## Pulses without a drop -/

/-- Polls that report no backlog have counted all time in pulses. -/
theorem Balanced.pulses_of_quiet {clock : PulseClock}
    {slices : List Duration} {polling : Polling}
    (balanced : Balanced clock slices polling)
    (quiet : ∀ poll ∈ polling.polls, poll.brought.events = []) :
    polling.pulses =
      (clock.carry.nanoseconds + timeOf slices) /
        clock.period.nanoseconds := by
  refine (balanced.division_iff.mpr ?_).1
  intro poll member
  rcases (balanced.settled poll member).1.either with
    ⟨nothing, -, -⟩ | ⟨-, -, events⟩
  · exact nothing
  · rw [quiet poll member] at events
    cases events

/--
A clock keeps its rate.  A clock that carries no time, be it new or reset and
with any limit, is told of some time in slices whose additions stay in range.
If no backlog is dropped, it delivers no fewer pulses than the rate asks for;
exactly as many if the rate divides the nanoseconds of a second; and exactly
the rate in a second, if the square of the rate is no more than these.
-/
theorem keeps_nominal_rate {rate limit : UInt32} {clock : PulseClock}
    (reachable : Reachable rate limit clock) (fresh : clock.carry = .zero)
    (positive : 1 ≤ rate.toNat) (le : rate.toNat ≤ nanosecondsPerSecond)
    (slices : List Duration) (inRange : clock.SumsInRange slices) :
    ∃ polling,
      clock.pollAll slices = .ok polling ∧
        ((∀ poll ∈ polling.polls, poll.brought.events = []) →
          rate.toNat * timeOf slices / nanosecondsPerSecond ≤
              polling.pulses ∧
            (rate.toNat ∣ nanosecondsPerSecond →
              polling.pulses =
                rate.toNat * timeOf slices / nanosecondsPerSecond) ∧
            (rate.toNat * rate.toNat ≤ nanosecondsPerSecond →
              timeOf slices = nanosecondsPerSecond →
                polling.pulses = rate.toNat)) := by
  rcases balanced_pollAll reachable.sound inRange with
    ⟨polling, polled, balanced⟩
  refine ⟨polling, polled, fun quiet => ?_⟩
  have pulses :
      polling.pulses = timeOf slices / (periodOf rate).nanoseconds := by
    rw [balanced.pulses_of_quiet quiet, fresh, reachable.settings.1]
    exact congrArg (· / _) (Nat.zero_add _)
  rw [pulses]
  refine ⟨le_div_periodOf positive le _, div_periodOf_of_dvd positive le _,
    ?_⟩
  intro small second
  rw [second]
  exact second_div_periodOf positive le small

/-- Sixty pulses in a second, with a period that was cut. -/
theorem keeps_nominal_rate_of_sixty :
    let clock := (ofRate 60).withLimit 40
    let slices : List Duration :=
      [.ofNanoseconds 16666665, .ofNanoseconds 500000000,
        .ofNanoseconds 483333335]
    Reachable 60 40 clock ∧ clock.SumsInRange slices ∧
      timeOf slices = nanosecondsPerSecond ∧
      ∃ polling, clock.pollAll slices = .ok polling ∧
        polling.pulses = 60 := by
  intro clock slices
  have reachable : Reachable 60 40 clock := .withLimit 40 .start
  have inRange : clock.SumsInRange slices :=
    sumsInRange_of_le (by decide)
  have second : timeOf slices = nanosecondsPerSecond := by decide
  refine ⟨reachable, inRange, second, ?_⟩
  rcases keeps_nominal_rate reachable rfl (by decide) (by decide) slices
    inRange with ⟨polling, polled, kept⟩
  have evaluated :
      (clock.pollAll slices).toOption.map
          (fun polling =>
            polling.polls.all fun poll => poll.brought.events.isEmpty) =
        some true := by
    decide +kernel
  rw [polled] at evaluated
  have quiet : ∀ poll ∈ polling.polls, poll.brought.events = [] := by
    intro poll member
    exact List.isEmpty_iff.mp
      (List.all_eq_true.mp (Option.some.inj evaluated) poll member)
  exact ⟨polling, polled, (kept quiet).2.2 (by decide) second⟩

end Chip8.PulseClock
