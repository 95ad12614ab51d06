import Chip8.Proofs.PulseClock.Advance

/-!
# Faults of an advance

`advanceInPlace` advances a clock in steps of words and durations, each of
which can go wrong in its own way: a duration leaves its range, a divisor is
zero, or a count has more than thirty-two bits.  The steps write to the clock
as they go, so a fault leaves it as it is by then.

On a sound clock only the first of these steps can go wrong, before anything
is written: `advanceInPlace_of_lt`.  Otherwise the test against the limit
guards all steps behind it, and the clock comes to be the one of `advance`, by
`advanceInPlace_of_le`.
-/

namespace Chip8.PulseClock

/-- What can go wrong in a step of an advance. -/
inductive Fault where
  | duration (error : DurationError)
  | division
  | narrowing
deriving DecidableEq, Repr

/-- Steps that write to a clock, and stop at the first fault. -/
abbrev InPlace :=
  ExceptT Fault (StateM PulseClock)

/-! ## Steps -/

/-- A duration, unless it is out of range. -/
def durationOf : Except DurationError Duration → InPlace Duration
  | .ok duration => pure duration
  | .error error => throw (.duration error)

/-- A quotient, unless the divisor is zero. -/
def quotient (dividend divisor : Nat) : InPlace Nat :=
  if divisor = 0 then throw .division else pure (dividend / divisor)

/-- A count as a word of thirty-two bits, unless bits are lost. -/
def narrow (count : Nat) : InPlace UInt32 :=
  if count < UInt32.size then pure (.ofNat count) else throw .narrowing

/-- Write the carried time to the clock. -/
def setCarry (carry : Duration) : InPlace Unit :=
  modify fun clock => { clock with carry }

/-- Deliver the due pulses of a clock that has all its time in the carry. -/
def deliver (due : Nat) : InPlace (UInt32 × List Event) := do
  let clock ← get
  if clock.limit.toNat < due then
    setCarry .zero
    return (clock.limit, [.backlogDropped (.ofNat due) clock.limit])
  else
    let pulses ← narrow due
    let spent ← durationOf (clock.period.times pulses)
    setCarry (← durationOf (clock.carry.subtract spent))
    return (pulses, [])

/-- Advance a clock step by step; the pulses and events are the result. -/
def advanceInPlace (elapsed : Duration) : InPlace (UInt32 × List Event) := do
  setCarry (← durationOf ((← get).carry.add elapsed))
  let clock ← get
  deliver (← quotient clock.carry.nanoseconds clock.period.nanoseconds)

/-- The result of some steps from a clock, and the clock that they leave. -/
def InPlace.runFrom {α : Type} (steps : InPlace α) (clock : PulseClock) :
    Except Fault α × PulseClock :=
  (steps.run.run clock : Id _)

section

variable {α β : Type} {steps : InPlace α} {next : α → InPlace β}
  {before after : PulseClock}

theorem runFrom_bind_ok {result : α}
    (ran : steps.runFrom before = (.ok result, after)) :
    (steps >>= next).runFrom before = (next result).runFrom after := by
  change (ExceptT.bindCont next (steps.runFrom before).1
    (steps.runFrom before).2 : Id _) = _
  rw [ran]
  rfl

theorem runFrom_bind_error {fault : Fault}
    (stopped : steps.runFrom before = (.error fault, after)) :
    (steps >>= next).runFrom before = (.error fault, after) := by
  change (ExceptT.bindCont next (steps.runFrom before).1
    (steps.runFrom before).2 : Id _) = _
  rw [stopped]
  rfl

end

section

variable {clock : PulseClock} {elapsed : Duration}

theorem runFrom_quotient {dividend divisor : Nat} (positive : 0 < divisor) :
    (quotient dividend divisor).runFrom clock =
      (.ok (dividend / divisor), clock) := by
  rw [quotient, if_neg (Nat.ne_of_gt positive)]
  rfl

theorem runFrom_narrow {count : Nat} (fits : count < UInt32.size) :
    (narrow count).runFrom clock = (.ok (.ofNat count), clock) := by
  rw [narrow, if_pos fits]
  rfl

/-! ## The one fault -/

/-- A sum out of range stops an advance before anything is written. -/
theorem advanceInPlace_of_lt
    (outOfRange : greatestNanoseconds < clock.carried elapsed) :
    (advanceInPlace elapsed).runFrom clock =
      (.error (.duration .addition), clock) := by
  refine (runFrom_bind_ok rfl).trans (runFrom_bind_error ?_)
  rw [Duration.add_of_lt outOfRange]
  rfl

section

variable (inRange : clock.carried elapsed ≤ greatestNanoseconds)

/-- The clock in the middle of an advance, when the sum is written. -/
def summed : PulseClock :=
  { clock with carry := ⟨clock.carried elapsed, inRange⟩ }

/-- A sum in range is written, and a period that is not zero divides it. -/
theorem runFrom_advanceInPlace (positive : 0 < clock.period.nanoseconds) :
    (advanceInPlace elapsed).runFrom clock =
      (deliver (clock.due elapsed)).runFrom (summed inRange) := by
  have sum :
      (durationOf (clock.carry.add elapsed)).runFrom clock =
        (.ok ⟨clock.carried elapsed, inRange⟩, clock) := by
    rw [Duration.add_of_le inRange]
    rfl
  refine (runFrom_bind_ok rfl).trans ?_
  refine (runFrom_bind_ok sum).trans ?_
  refine (runFrom_bind_ok rfl).trans ?_
  refine (runFrom_bind_ok rfl).trans ?_
  exact runFrom_bind_ok (runFrom_quotient positive)

theorem deliver_of_lt (beyond : clock.limit.toNat < clock.due elapsed) :
    (deliver (clock.due elapsed)).runFrom (summed inRange) =
      (.ok (clock.limit,
        [.backlogDropped (.ofNat (clock.due elapsed)) clock.limit]),
        clock.reset) := by
  refine (runFrom_bind_ok rfl).trans ?_
  exact congrArg (InPlace.runFrom · _) (if_pos beyond)

/-- A count within the limit makes all later steps go well. -/
theorem deliver_of_le (within : clock.due elapsed ≤ clock.limit.toNat) :
    ∃ rest : Duration,
      rest.nanoseconds =
          clock.carried elapsed % clock.period.nanoseconds ∧
        (deliver (clock.due elapsed)).runFrom (summed inRange) =
          (.ok (.ofNat (clock.due elapsed), []),
            { clock with carry := rest }) := by
  rcases times_due inRange within with ⟨spent, product, time, taken⟩
  let total : Duration := ⟨clock.carried elapsed, inRange⟩
  have fits : clock.due elapsed < UInt32.size :=
    Nat.lt_of_le_of_lt within clock.limit.toNat_lt
  have multiplied :
      (durationOf (clock.period.times (.ofNat (clock.due elapsed)))).runFrom
          (summed inRange) =
        (.ok spent, summed inRange) := by
    rw [product]
    rfl
  have difference :
      (durationOf (total.subtract spent)).runFrom (summed inRange) =
        (.ok (total.subtractOrZero spent), summed inRange) := by
    rw [Duration.subtract_of_le taken]
    rfl
  refine ⟨total.subtractOrZero spent, ?_, ?_⟩
  · change clock.carried elapsed - spent.nanoseconds = _
    rw [time]
    exact (Nat.mod_eq_sub _ _).symm
  · refine (runFrom_bind_ok rfl).trans ?_
    refine (congrArg (InPlace.runFrom · _)
      (if_neg (Nat.not_lt_of_le within))).trans ?_
    refine (runFrom_bind_ok (runFrom_narrow fits)).trans ?_
    refine (runFrom_bind_ok multiplied).trans ?_
    refine (runFrom_bind_ok difference).trans ?_
    rfl

end

/-- An advance in place comes to what an advance brings. -/
theorem advanceInPlace_of_le (positive : 0 < clock.period.nanoseconds)
    (inRange : clock.carried elapsed ≤ greatestNanoseconds) :
    ∃ brought,
      clock.advance elapsed = .ok brought ∧
        (advanceInPlace elapsed).runFrom clock =
          (.ok (brought.pulses, brought.events), brought.clock) := by
  rcases advance_cases inRange with
    ⟨brought, advanced, ⟨within, delivers⟩ | ⟨beyond, drops⟩⟩
  · refine ⟨brought, advanced, ?_⟩
    rcases deliver_of_le inRange within with ⟨rest, time, delivered⟩
    have pulses :
        UInt32.ofNat (clock.due elapsed) = brought.pulses := by
      rw [← delivers.pulses_eq, UInt32.ofNat_toNat]
    have carry : rest = brought.clock.carry :=
      Duration.ext (time.trans delivers.carry_eq.symm)
    rw [runFrom_advanceInPlace inRange positive, delivered, pulses, carry,
      delivers.events_eq, ← delivers.period_eq, ← delivers.limit_eq]
  · refine ⟨brought, advanced, ?_⟩
    rw [runFrom_advanceInPlace inRange positive, deliver_of_lt inRange beyond,
      drops.pulses_eq, drops.clock_eq, drops.events_eq]

end

/--
An advance can go wrong in one way only.  Whatever time a reachable clock is
given, an advance fails exactly if the carried time and the new one add up to
more than a duration holds, and then the clock is left as it was.  Otherwise
no step of it goes wrong: the period is not zero, a count within the limit
keeps all its bits as a word of thirty-two, the time of so many pulses is a
duration, and it can be taken off the time that there is.
-/
theorem fails_only_in_sum {rate limit : UInt32} {clock : PulseClock}
    (reachable : Reachable rate limit clock) (elapsed : Duration) :
    let time := clock.carry.nanoseconds + elapsed.nanoseconds
    let due := time / clock.period.nanoseconds
    ((∃ error, clock.advance elapsed = .error error) ↔
        greatestNanoseconds < time) ∧
      (greatestNanoseconds < time →
        clock.advance elapsed = .error .addition ∧
          (advanceInPlace elapsed).runFrom clock =
            (.error (.duration .addition), clock)) ∧
      (time ≤ greatestNanoseconds →
        (∃ brought,
          clock.advance elapsed = .ok brought ∧
            (advanceInPlace elapsed).runFrom clock =
              (.ok (brought.pulses, brought.events), brought.clock)) ∧
          0 < clock.period.nanoseconds ∧
          (due ≤ clock.limit.toNat →
            (UInt32.ofNat due).toNat = due ∧
              ∃ spent,
                clock.period.times (.ofNat due) = .ok spent ∧
                  spent.nanoseconds = clock.period.nanoseconds * due ∧
                  spent.nanoseconds ≤ time)) := by
  intro time due
  have positive := reachable.sound.period_pos
  refine ⟨?_, ?_, ?_⟩
  · constructor
    · rintro ⟨error, failed⟩
      rcases Nat.lt_or_ge greatestNanoseconds time with outOfRange | inRange
      · exact outOfRange
      · rcases advance_cases inRange with ⟨brought, advanced, -⟩
        rw [advanced] at failed
        cases failed
    · intro outOfRange
      exact ⟨_, advance_of_overflow outOfRange⟩
  · intro outOfRange
    exact ⟨advance_of_overflow outOfRange, advanceInPlace_of_lt outOfRange⟩
  · intro inRange
    refine ⟨advanceInPlace_of_le positive inRange, positive, ?_⟩
    intro within
    exact ⟨toNat_ofNat_due within, times_due inRange within⟩

/-- A clock that carries half a second is given the longest duration. -/
theorem fails_only_in_sum_of_longest :
    let clock : PulseClock :=
      { ofRate 1 with carry := .ofNanoseconds 500000000 }
    let longest : Duration := .ofNanoseconds greatestNanoseconds
    Reachable 1 standardPulseLimit clock ∧
      clock.advance longest = .error .addition ∧
      (advanceInPlace longest).runFrom clock =
        (.error (.duration .addition), clock) := by
  intro clock longest
  have advanced :
      (ofRate 1).advance (.ofNanoseconds 500000000) =
        .ok ⟨0, clock, []⟩ := by
    rfl
  have reachable : Reachable 1 standardPulseLimit clock :=
    .advance .start advanced
  refine ⟨reachable, ?_⟩
  exact (fails_only_in_sum reachable longest).2.1 (by decide +kernel)

end Chip8.PulseClock
