import Chip8.Proofs.PulseClock.Advance
import Mathlib.Algebra.Order.Ring.Nat

/-!
# Slices of time

A host may tell a clock of the same stretch of time in one piece or in many.
What the clock makes of it is a balance: the time told and the time carried
are counted in pulses, carried on, or lost in a drop of the backlog, and a
drop loses at least a period.

`Balanced` is this balance of a list of polls, kept by one poll more
(`Balanced.cons`) and hence by every polling (`balanced_pollAll`).
-/

namespace Chip8.PulseClock

/-! ## Polling -/

/-- An advance, with the clock and the time that it was made with. -/
structure Poll where
  before : PulseClock
  elapsed : Duration
  brought : Advance

namespace Poll

/-- The pulses that a poll delivers. -/
def pulses (poll : Poll) : Nat :=
  poll.brought.pulses.toNat

/-- The time that is neither counted in pulses nor carried on. -/
def lost (poll : Poll) : Nat :=
  poll.before.carried poll.elapsed -
    (poll.pulses * poll.before.period.nanoseconds +
      poll.brought.clock.carry.nanoseconds)

end Poll

/-- Some polls, one after another, and the clock after them. -/
structure Polling where
  polls : List Poll
  clock : PulseClock

namespace Polling

/-- All pulses that the polls reported. -/
def pulses (polling : Polling) : Nat :=
  (polling.polls.map Poll.pulses).sum

/-- All pulses that the polls dropped. -/
def lost (polling : Polling) : Nat :=
  (polling.polls.map Poll.lost).sum

end Polling

/-- Advance a clock by some durations, one after another. -/
def pollAll : PulseClock → List Duration → Except DurationError Polling
  | clock, [] => .ok ⟨[], clock⟩
  | clock, elapsed :: rest => do
      let brought ← clock.advance elapsed
      let later ← brought.clock.pollAll rest
      return ⟨⟨clock, elapsed, brought⟩ :: later.polls, later.clock⟩

/-- Whether the additions of the carried time all stay in range. -/
def SumsInRange : PulseClock → List Duration → Prop
  | _, [] => True
  | clock, elapsed :: rest =>
      clock.carried elapsed ≤ greatestNanoseconds ∧
        ∀ brought, clock.advance elapsed = .ok brought →
          brought.clock.SumsInRange rest

/-- The time of some durations, in nanoseconds. -/
def timeOf (slices : List Duration) : Nat :=
  (slices.map Duration.nanoseconds).sum

theorem pollAll_cons {clock : PulseClock} {elapsed : Duration}
    {rest : List Duration} {brought : Advance} {later : Polling}
    (advanced : clock.advance elapsed = .ok brought)
    (polled : brought.clock.pollAll rest = .ok later) :
    clock.pollAll (elapsed :: rest) =
      .ok ⟨⟨clock, elapsed, brought⟩ :: later.polls, later.clock⟩ := by
  rw [pollAll, advanced]
  change (brought.clock.pollAll rest).bind _ = _
  rw [polled]
  rfl

/-! ## One poll -/

/-- What a poll comes to: it delivers what is due, or drops a backlog. -/
structure Poll.Settled (poll : Poll) : Prop where
  total_eq :
    poll.before.carried poll.elapsed =
      poll.pulses * poll.before.period.nanoseconds +
        poll.brought.clock.carry.nanoseconds + poll.lost
  either :
    poll.lost = 0 ∧ poll.pulses ≤ poll.before.limit.toNat ∧
        poll.brought.events = [] ∨
      poll.before.period.nanoseconds ≤ poll.lost ∧
        poll.pulses = poll.before.limit.toNat ∧
        poll.brought.events =
          [.backlogDropped
            (.ofNat (poll.before.due poll.elapsed)) poll.before.limit]

/-- If more pulses are due than are delivered, a whole one is lost. -/
theorem Poll.settled_of_advance {clock : PulseClock} {elapsed : Duration}
    {brought : Advance}
    (advanced : clock.advance elapsed = .ok brought) :
    Poll.Settled ⟨clock, elapsed, brought⟩ := by
  rcases cases_of_advance advanced with
    ⟨within, delivers⟩ | ⟨beyond, drops⟩
  · have total :
        clock.carried elapsed =
          brought.pulses.toNat * clock.period.nanoseconds +
            brought.clock.carry.nanoseconds := by
      rw [delivers.pulses_eq, delivers.carry_eq, due]
      exact (Nat.div_add_mod' _ _).symm
    have nothing : Poll.lost ⟨clock, elapsed, brought⟩ = 0 :=
      Nat.sub_eq_zero_of_le total.le
    have pulses : brought.pulses.toNat ≤ clock.limit.toNat :=
      delivers.pulses_eq.trans_le within
    refine ⟨?_, .inl ⟨nothing, pulses, delivers.events_eq⟩⟩
    rw [nothing]
    exact total
  · have more :
        clock.limit.toNat * clock.period.nanoseconds +
            clock.period.nanoseconds ≤ clock.carried elapsed := by
      rw [← Nat.succ_mul]
      exact (Nat.mul_le_mul_right _ beyond).trans (Nat.div_mul_le_self _ _)
    have carry : brought.clock.carry.nanoseconds = 0 := by
      rw [drops.clock_eq]
      rfl
    have pulses : brought.pulses.toNat = clock.limit.toNat := by
      rw [drops.pulses_eq]
    have lost :
        Poll.lost ⟨clock, elapsed, brought⟩ =
          clock.carried elapsed -
            clock.limit.toNat * clock.period.nanoseconds := by
      simp only [Poll.lost, Poll.pulses, pulses, carry, Nat.add_zero]
    refine ⟨?_, .inr ⟨?_, pulses, drops.events_eq⟩⟩
    · simp only [lost, Poll.pulses, pulses, carry]
      omega
    · change clock.period.nanoseconds ≤ _
      rw [lost]
      omega

/-! ## Many polls -/

/-- The balance of some polls from a clock to the one after them. -/
structure Balanced (clock : PulseClock) (slices : List Duration)
    (polling : Polling) : Prop where
  total_eq :
    clock.carry.nanoseconds + timeOf slices =
      polling.pulses * clock.period.nanoseconds +
        polling.clock.carry.nanoseconds + polling.lost
  carry_lt :
    polling.clock.carry.nanoseconds < clock.period.nanoseconds
  settled :
    ∀ poll ∈ polling.polls,
      poll.Settled ∧ poll.before.period = clock.period ∧
        poll.before.limit = clock.limit
  either :
    polling.lost = 0 ∨
      clock.period.nanoseconds ≤ polling.lost ∧
        clock.limit.toNat ≤ polling.pulses

/-- One poll more, at the beginning. -/
theorem Balanced.cons {clock : PulseClock} {elapsed : Duration}
    {brought : Advance} {rest : List Duration} {later : Polling}
    (advanced : clock.advance elapsed = .ok brought)
    (balanced : Balanced brought.clock rest later) :
    Balanced clock (elapsed :: rest)
      ⟨⟨clock, elapsed, brought⟩ :: later.polls, later.clock⟩ := by
  rcases period_limit_advance advanced with ⟨period, limit⟩
  rcases balanced with ⟨laterTotal, carry_lt, settled, laterEither⟩
  rw [period] at laterTotal carry_lt laterEither
  rw [limit] at laterEither
  let poll : Poll := ⟨clock, elapsed, brought⟩
  have first : poll.Settled := Poll.settled_of_advance advanced
  have firstTotal := first.total_eq
  refine ⟨?_, carry_lt, ?_, ?_⟩
  · change
      clock.carry.nanoseconds + elapsed.nanoseconds =
        poll.pulses * clock.period.nanoseconds +
          brought.clock.carry.nanoseconds + poll.lost at firstTotal
    change clock.carry.nanoseconds + (elapsed.nanoseconds + timeOf rest) =
      (poll.pulses + later.pulses) * clock.period.nanoseconds +
        later.clock.carry.nanoseconds + (poll.lost + later.lost)
    rw [Nat.add_mul]
    omega
  · intro other member
    rcases List.mem_cons.mp member with rfl | memberLater
    · exact ⟨first, rfl, rfl⟩
    · rcases settled other memberLater with ⟨balance, periods, limits⟩
      exact ⟨balance, periods.trans period, limits.trans limit⟩
  · change
      poll.lost + later.lost = 0 ∨
        clock.period.nanoseconds ≤ poll.lost + later.lost ∧
          clock.limit.toNat ≤ poll.pulses + later.pulses
    rcases first.either with ⟨nothing, _⟩ | ⟨dropped, pulses, _⟩
    · omega
    · refine .inr ⟨Nat.le_add_right_of_le dropped, ?_⟩
      exact Nat.le_add_right_of_le pulses.ge

/-- Polls whose additions stay in range all take place, and balance. -/
theorem balanced_pollAll {clock : PulseClock} (sound : clock.Sound)
    {slices : List Duration} (inRange : clock.SumsInRange slices) :
    ∃ polling,
      clock.pollAll slices = .ok polling ∧
        Balanced clock slices polling := by
  induction slices generalizing clock with
  | nil =>
      refine ⟨⟨[], clock⟩, rfl, ?_, sound.carry_lt, ?_, .inl rfl⟩
      · change clock.carry.nanoseconds + 0 =
          0 * clock.period.nanoseconds + clock.carry.nanoseconds + 0
        rw [Nat.zero_mul, Nat.zero_add]
      · intro poll member
        cases member
  | cons elapsed rest ih =>
      rcases inRange with ⟨fits, fitsLater⟩
      rcases advance_cases fits with ⟨brought, advanced, _⟩
      rcases ih (sound.advance advanced) (fitsLater brought advanced) with
        ⟨later, polled, balanced⟩
      exact ⟨_, pollAll_cons advanced polled, balanced.cons advanced⟩

/-- An advance carries on no more than the time it was given. -/
theorem carry_le_carried {clock : PulseClock} {elapsed : Duration}
    {brought : Advance}
    (advanced : clock.advance elapsed = .ok brought) :
    brought.clock.carry.nanoseconds ≤ clock.carried elapsed := by
  have total := (Poll.settled_of_advance advanced).total_eq
  change
    clock.carried elapsed =
      _ + brought.clock.carry.nanoseconds + Poll.lost _ at total
  omega

/-- No addition leaves the range if the whole time is within it. -/
theorem sumsInRange_of_le {clock : PulseClock} {slices : List Duration}
    (fits :
      clock.carry.nanoseconds + timeOf slices ≤ greatestNanoseconds) :
    clock.SumsInRange slices := by
  induction slices generalizing clock with
  | nil => trivial
  | cons elapsed rest ih =>
      change
        clock.carry.nanoseconds + (elapsed.nanoseconds + timeOf rest) ≤ _
          at fits
      rw [← Nat.add_assoc] at fits
      refine ⟨(Nat.le_add_right _ _).trans fits, ?_⟩
      intro brought advanced
      apply ih
      exact (Nat.add_le_add_right (carry_le_carried advanced) _).trans fits

/-! ## What the balance says -/

namespace Balanced

variable {clock : PulseClock} {slices : List Duration} {polling : Polling}

theorem pulses_le (balanced : Balanced clock slices polling) :
    polling.pulses ≤
      (clock.carry.nanoseconds + timeOf slices) /
        clock.period.nanoseconds := by
  have positive := Nat.zero_lt_of_lt balanced.carry_lt
  rw [Nat.le_div_iff_mul_le positive, balanced.total_eq, Nat.add_assoc]
  exact Nat.le_add_right _ _

/-- Without a loss, the total time is divided exactly as it would be at once. -/
theorem division_of_lost_eq_zero (balanced : Balanced clock slices polling)
    (nothing : polling.lost = 0) :
    polling.pulses =
        (clock.carry.nanoseconds + timeOf slices) /
          clock.period.nanoseconds ∧
      polling.clock.carry.nanoseconds =
        (clock.carry.nanoseconds + timeOf slices) %
          clock.period.nanoseconds := by
  have total := balanced.total_eq
  rw [nothing, Nat.add_zero] at total
  have unique :=
    (Nat.div_mod_unique (Nat.zero_lt_of_lt balanced.carry_lt)).mpr
      ⟨(Nat.add_comm _ _).trans
        ((congrArg (· + _) (Nat.mul_comm _ _)).trans total.symm),
        balanced.carry_lt⟩
  exact ⟨unique.1.symm, unique.2.symm⟩

/-- A loss is the loss of a pulse at least. -/
theorem pulses_lt_of_lost (balanced : Balanced clock slices polling)
    (loss : polling.lost ≠ 0) :
    polling.pulses <
      (clock.carry.nanoseconds + timeOf slices) /
        clock.period.nanoseconds := by
  have positive := Nat.zero_lt_of_lt balanced.carry_lt
  have period := (balanced.either.resolve_left loss).1
  have total := balanced.total_eq
  refine (Nat.le_div_iff_mul_le positive).mpr ?_
  rw [Nat.succ_mul]
  omega

/-- The division is exact just where no poll has lost anything. -/
theorem division_iff (balanced : Balanced clock slices polling) :
    (polling.pulses =
          (clock.carry.nanoseconds + timeOf slices) /
            clock.period.nanoseconds ∧
        polling.clock.carry.nanoseconds =
          (clock.carry.nanoseconds + timeOf slices) %
            clock.period.nanoseconds) ↔
      ∀ poll ∈ polling.polls, poll.lost = 0 := by
  have nothing :
      polling.lost = 0 ↔ ∀ poll ∈ polling.polls, poll.lost = 0 := by
    rw [Polling.lost, List.sum_eq_zero_iff_forall_eq_nat]
    exact List.forall_mem_map
  rw [← nothing]
  constructor
  · rintro ⟨exactly, _⟩
    by_contra loss
    exact (balanced.pulses_lt_of_lost loss).ne exactly
  · exact balanced.division_of_lost_eq_zero

/-- Unless all due pulses are delivered, one poll delivered its limit. -/
theorem le_pulses (balanced : Balanced clock slices polling) :
    min clock.limit.toNat
        ((clock.carry.nanoseconds + timeOf slices) /
          clock.period.nanoseconds) ≤ polling.pulses := by
  rcases balanced.either with nothing | ⟨_, limit⟩
  · rw [(balanced.division_of_lost_eq_zero nothing).1]
    exact Nat.min_le_right _ _
  · exact (Nat.min_le_left _ _).trans limit

end Balanced

/--
The balance of a clock however time is sliced.  From any reachable clock, some
durations whose additions stay in range are all taken in.  No poll delivers
more than the limit, and a poll reports a dropped backlog just when it loses
time.  All time is counted in pulses, carried on or lost in such a drop; the
pulses are as many as the whole time has periods, or at least the limit; and
they divide it exactly just when nothing was dropped.  In particular they are
no fewer than one advance by the whole time would deliver.
-/
theorem sliced_time_balances {rate limit : UInt32} {clock : PulseClock}
    (reachable : Reachable rate limit clock) (slices : List Duration)
    (inRange : clock.SumsInRange slices) :
    ∃ polling,
      clock.pollAll slices = .ok polling ∧
        let period := (periodOf rate).nanoseconds
        let most := max 1 limit.toNat
        let time := clock.carry.nanoseconds + timeOf slices
        (∀ poll ∈ polling.polls,
          poll.pulses ≤ most ∧
            poll.brought.events =
              if poll.lost = 0 then
                []
              else
                [.backlogDropped (.ofNat (poll.before.due poll.elapsed))
                  (.ofNat most)]) ∧
        time =
          polling.pulses * period + polling.clock.carry.nanoseconds +
            polling.lost ∧
        min most (time / period) ≤ polling.pulses ∧
        polling.pulses ≤ time / period ∧
        ((polling.pulses = time / period ∧
            polling.clock.carry.nanoseconds = time % period) ↔
          ∀ poll ∈ polling.polls, poll.lost = 0) ∧
        ∀ whole once,
          whole.nanoseconds = timeOf slices →
            clock.advance whole = .ok once →
              once.pulses.toNat ≤ polling.pulses := by
  rcases balanced_pollAll reachable.sound inRange with
    ⟨polling, polled, balanced⟩
  rcases reachable.settings with ⟨period, most⟩
  have positive := reachable.sound.period_pos
  refine ⟨polling, polled, ?_⟩
  rw [← period, ← most]
  refine ⟨?_, balanced.total_eq, balanced.le_pulses, balanced.pulses_le,
    balanced.division_iff, ?_⟩
  · intro poll member
    rcases balanced.settled poll member with ⟨settled, periods, limits⟩
    rw [← limits, UInt32.ofNat_toNat]
    rcases settled.either with
      ⟨nothing, pulses, events⟩ | ⟨dropped, pulses, events⟩
    · exact ⟨pulses, by rw [events, if_pos nothing]⟩
    · have loss : poll.lost ≠ 0 := by
        rw [periods] at dropped
        exact Nat.ne_of_gt (positive.trans_le dropped)
      exact ⟨pulses.le, by rw [events, if_neg loss]⟩
  · intro whole once same advanced
    have delivered := pulses_of_advance advanced
    rw [due, carried, same] at delivered
    rw [delivered]
    exact balanced.le_pulses

/-- A clock of ten milliseconds that drops a backlog of one second. -/
theorem sliced_time_balances_with_drop :
    let clock := (ofRate 100).withLimit 3
    let slices : List Duration :=
      [.ofNanoseconds 15000000, .ofNanoseconds 1000000000,
        .ofNanoseconds 12000000]
    Reachable 100 3 clock ∧ clock.SumsInRange slices ∧
      ∃ polling,
        clock.pollAll slices = .ok polling ∧ polling.pulses = 5 ∧
          polling.clock.carry.nanoseconds = 2000000 ∧
          ¬ ∀ poll ∈ polling.polls, poll.lost = 0 := by
  intro clock slices
  have reachable : Reachable 100 3 clock := .withLimit 3 .start
  have inRange : clock.SumsInRange slices :=
    sumsInRange_of_le (by decide)
  refine ⟨reachable, inRange, ?_⟩
  rcases sliced_time_balances reachable slices inRange with
    ⟨polling, polled, _, _, _, _, exactly, _⟩
  have evaluated :
      (clock.pollAll slices).toOption.map
          (fun polling =>
            (polling.pulses, polling.clock.carry.nanoseconds)) =
        some (5, 2000000) := by
    decide +kernel
  rw [polled] at evaluated
  change some _ = some _ at evaluated
  rw [Option.some.injEq, Prod.mk.injEq] at evaluated
  rcases evaluated with ⟨pulses, carry⟩
  refine ⟨polling, polled, pulses, carry, ?_⟩
  intro nothing
  have divided := (exactly.mpr nothing).1
  rw [pulses] at divided
  revert divided
  decide +kernel

end Chip8.PulseClock
