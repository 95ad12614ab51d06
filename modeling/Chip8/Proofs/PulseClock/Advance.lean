import Chip8.PulseClock

/-!
# Advances of a pulse clock

`Reachable` are the clocks that a host can come to have: made for a rate,
limited, advanced and reset in any order.  Each of them is `Sound`: it carries
less than a period, and its limit lets a pulse through.

`advance_of_le` and `advance_of_lt` are the two ways in which a sound clock
can advance; they differ in whether more pulses are due than its limit.
-/

namespace Chip8

/-! ## Durations that stay in range -/

namespace Duration

theorem add_of_le {left right : Duration}
    (inRange :
      left.nanoseconds + right.nanoseconds ≤ greatestNanoseconds) :
    left.add right = .ok ⟨left.nanoseconds + right.nanoseconds, inRange⟩ :=
  dif_pos inRange

theorem add_of_lt {left right : Duration}
    (outOfRange :
      greatestNanoseconds < left.nanoseconds + right.nanoseconds) :
    left.add right = .error .addition :=
  dif_neg (Nat.not_le_of_lt outOfRange)

theorem times_of_le {duration : Duration} {count : UInt32}
    (inRange :
      duration.nanoseconds * count.toNat ≤ greatestNanoseconds) :
    duration.times count =
      .ok ⟨duration.nanoseconds * count.toNat, inRange⟩ :=
  dif_pos inRange

theorem subtract_of_le {left right : Duration}
    (ordered : right.nanoseconds ≤ left.nanoseconds) :
    left.subtract right = .ok (left.subtractOrZero right) := by
  have inRange :
      left.nanoseconds - right.nanoseconds ≤ greatestNanoseconds :=
    (left.subtractOrZero right).nanoseconds_le
  rw [subtract, if_pos ordered, checked, dif_pos inRange]
  rfl

end Duration

namespace PulseClock

/-! ## Reachable clocks -/

/-- The clocks of a rate, with the limit that was last asked for. -/
inductive Reachable (rate : UInt32) : UInt32 → PulseClock → Prop where
  | start : Reachable rate standardPulseLimit (ofRate rate)
  | withLimit {earlier : UInt32} {clock : PulseClock} (limit : UInt32)
      (reachable : Reachable rate earlier clock) :
      Reachable rate limit (clock.withLimit limit)
  | advance {limit : UInt32} {clock : PulseClock} {elapsed : Duration}
      {brought : Advance} (reachable : Reachable rate limit clock)
      (advanced : clock.advance elapsed = .ok brought) :
      Reachable rate limit brought.clock
  | reset {limit : UInt32} {clock : PulseClock}
      (reachable : Reachable rate limit clock) :
      Reachable rate limit clock.reset

/-- The carried time is short of a period, and the limit is not zero. -/
structure Sound (clock : PulseClock) : Prop where
  carry_lt : clock.carry.nanoseconds < clock.period.nanoseconds
  limit_pos : 0 < clock.limit.toNat

/-- The time that an advance has to turn into pulses, in nanoseconds. -/
def carried (clock : PulseClock) (elapsed : Duration) : Nat :=
  clock.carry.nanoseconds + elapsed.nanoseconds

/-- The pulses that are due in an advance, in whatever number. -/
def due (clock : PulseClock) (elapsed : Duration) : Nat :=
  clock.carried elapsed / clock.period.nanoseconds

/-- What an advance leaves that delivers every due pulse. -/
structure Advance.Delivers (brought : Advance) (clock : PulseClock)
    (elapsed : Duration) : Prop where
  pulses_eq : brought.pulses.toNat = clock.due elapsed
  carry_eq :
    brought.clock.carry.nanoseconds =
      clock.carried elapsed % clock.period.nanoseconds
  period_eq : brought.clock.period = clock.period
  limit_eq : brought.clock.limit = clock.limit
  events_eq : brought.events = []

/-- What an advance leaves that drops its backlog. -/
structure Advance.Drops (brought : Advance) (clock : PulseClock)
    (elapsed : Duration) : Prop where
  pulses_eq : brought.pulses = clock.limit
  clock_eq : brought.clock = clock.reset
  events_eq :
    brought.events =
      [.backlogDropped (.ofNat (clock.due elapsed)) clock.limit]

/-! ## The two ways to advance -/

section

variable {clock : PulseClock} {elapsed : Duration}

theorem advance_of_overflow
    (outOfRange : greatestNanoseconds < clock.carried elapsed) :
    clock.advance elapsed = .error .addition := by
  rw [advance, Duration.add_of_lt outOfRange]
  rfl

theorem advance_of_lt
    (inRange : clock.carried elapsed ≤ greatestNanoseconds)
    (beyond : clock.limit.toNat < clock.due elapsed) :
    ∃ brought,
      clock.advance elapsed = .ok brought ∧
        brought.Drops clock elapsed := by
  refine ⟨⟨clock.limit, clock.reset,
    [.backlogDropped (.ofNat (clock.due elapsed)) clock.limit]⟩, ?_,
    rfl, rfl, rfl⟩
  rw [advance, Duration.add_of_le inRange]
  exact if_pos beyond

/-- A count within the limit keeps all its bits. -/
theorem toNat_ofNat_due (within : clock.due elapsed ≤ clock.limit.toNat) :
    (UInt32.ofNat (clock.due elapsed)).toNat = clock.due elapsed :=
  UInt32.toNat_ofNat_of_lt'
    (Nat.lt_of_le_of_lt within clock.limit.toNat_lt)

/-- The time of the due pulses is a duration, and no more than there is. -/
theorem times_due
    (inRange : clock.carried elapsed ≤ greatestNanoseconds)
    (within : clock.due elapsed ≤ clock.limit.toNat) :
    ∃ spent,
      clock.period.times (.ofNat (clock.due elapsed)) = .ok spent ∧
        spent.nanoseconds =
          clock.period.nanoseconds * clock.due elapsed ∧
        spent.nanoseconds ≤ clock.carried elapsed := by
  have time :
      clock.period.nanoseconds *
          (UInt32.ofNat (clock.due elapsed)).toNat =
        clock.period.nanoseconds * clock.due elapsed :=
    congrArg _ (toNat_ofNat_due within)
  have taken := Nat.le_trans (Nat.le_of_eq time) (Nat.mul_div_le _ _)
  exact ⟨_, Duration.times_of_le (Nat.le_trans taken inRange), time, taken⟩

theorem advance_of_le
    (inRange : clock.carried elapsed ≤ greatestNanoseconds)
    (within : clock.due elapsed ≤ clock.limit.toNat) :
    ∃ brought,
      clock.advance elapsed = .ok brought ∧
        brought.Delivers clock elapsed := by
  let total : Duration := ⟨clock.carried elapsed, inRange⟩
  let pulses := UInt32.ofNat (clock.due elapsed)
  let leaving (carry : Duration) : Advance :=
    ⟨pulses, { clock with carry }, []⟩
  rcases times_due inRange within with ⟨spent, product, time, taken⟩
  refine ⟨leaving (total.subtractOrZero spent), ?_,
    toNat_ofNat_due within, ?_, rfl, rfl, rfl⟩
  · have notBeyond : ¬ clock.limit.toNat < clock.due elapsed :=
      Nat.not_lt_of_le within
    have difference :
        total.subtract spent = .ok (total.subtractOrZero spent) :=
      Duration.subtract_of_le taken
    rw [advance, Duration.add_of_le inRange]
    refine (if_neg notBeyond).trans ?_
    change ((clock.period.times pulses).bind fun product =>
      (total.subtract product).bind fun carry => .ok (leaving carry)) = _
    rw [product]
    change (total.subtract spent).bind (fun carry => .ok (leaving carry)) = _
    rw [difference]
    rfl
  · change total.nanoseconds - spent.nanoseconds = _
    rw [time]
    exact (Nat.mod_eq_sub _ _).symm

/-- An addition that stays in range is all that an advance asks for. -/
theorem advance_cases
    (inRange : clock.carried elapsed ≤ greatestNanoseconds) :
    ∃ brought,
      clock.advance elapsed = .ok brought ∧
        (clock.due elapsed ≤ clock.limit.toNat ∧
            brought.Delivers clock elapsed ∨
          clock.limit.toNat < clock.due elapsed ∧
            brought.Drops clock elapsed) := by
  rcases Nat.lt_or_ge clock.limit.toNat (clock.due elapsed) with
    beyond | within
  · rcases advance_of_lt inRange beyond with ⟨brought, advanced, drops⟩
    exact ⟨brought, advanced, .inr ⟨beyond, drops⟩⟩
  · rcases advance_of_le inRange within with ⟨brought, advanced, delivers⟩
    exact ⟨brought, advanced, .inl ⟨within, delivers⟩⟩

/-- An advance that brings anything has stayed in range. -/
theorem carried_le_of_advance {brought : Advance}
    (advanced : clock.advance elapsed = .ok brought) :
    clock.carried elapsed ≤ greatestNanoseconds := by
  rcases Nat.lt_or_ge greatestNanoseconds (clock.carried elapsed) with
    outOfRange | inRange
  · rw [advance_of_overflow outOfRange] at advanced
    cases advanced
  · exact inRange

/-- The cases of `advance_cases`, for an advance that is at hand. -/
theorem cases_of_advance {brought : Advance}
    (advanced : clock.advance elapsed = .ok brought) :
    clock.due elapsed ≤ clock.limit.toNat ∧
        brought.Delivers clock elapsed ∨
      clock.limit.toNat < clock.due elapsed ∧
        brought.Drops clock elapsed := by
  rcases advance_cases (carried_le_of_advance advanced) with
    ⟨other, same, either⟩
  rw [advanced] at same
  cases same
  exact either

/-- One advance delivers what is due, up to the limit. -/
theorem pulses_of_advance {brought : Advance}
    (advanced : clock.advance elapsed = .ok brought) :
    brought.pulses.toNat =
      min clock.limit.toNat (clock.due elapsed) := by
  rcases cases_of_advance advanced with
    ⟨within, delivers⟩ | ⟨beyond, drops⟩
  · rw [delivers.pulses_eq, Nat.min_eq_right within]
  · rw [drops.pulses_eq, Nat.min_eq_left (Nat.le_of_lt beyond)]

/-! ## What every advance keeps -/

theorem Sound.period_pos (sound : clock.Sound) :
    0 < clock.period.nanoseconds :=
  Nat.zero_lt_of_lt sound.carry_lt

theorem Sound.reset (sound : clock.Sound) : clock.reset.Sound where
  carry_lt := sound.period_pos
  limit_pos := sound.limit_pos

theorem period_limit_advance {brought : Advance}
    (advanced : clock.advance elapsed = .ok brought) :
    brought.clock.period = clock.period ∧
      brought.clock.limit = clock.limit := by
  rcases cases_of_advance advanced with ⟨_, delivers⟩ | ⟨_, drops⟩
  · exact ⟨delivers.period_eq, delivers.limit_eq⟩
  · rw [drops.clock_eq]
    exact ⟨rfl, rfl⟩

theorem Sound.advance (sound : clock.Sound) {brought : Advance}
    (advanced : clock.advance elapsed = .ok brought) :
    brought.clock.Sound := by
  rcases cases_of_advance advanced with ⟨_, delivers⟩ | ⟨_, drops⟩
  · constructor
    · rw [delivers.carry_eq, delivers.period_eq]
      exact Nat.mod_lt _ sound.period_pos
    · rw [delivers.limit_eq]
      exact sound.limit_pos
  · rw [drops.clock_eq]
    exact sound.reset

end

/-! ## What every reachable clock is like -/

theorem period_pos (rate : UInt32) : 0 < (periodOf rate).nanoseconds := by
  change 0 < min (max 1 (nanosecondsPerSecond / max 1 rate.toNat))
    greatestNanoseconds
  rw [Nat.lt_min]
  exact ⟨Nat.lt_of_lt_of_le Nat.zero_lt_one (Nat.le_max_left _ _),
    by decide⟩

theorem limit_withLimit (clock : PulseClock) (limit : UInt32) :
    (clock.withLimit limit).limit.toNat = max 1 limit.toNat := by
  unfold withLimit
  split
  · next zero =>
    subst zero
    rfl
  · next nonzero =>
    have positive : limit.toNat ≠ 0 := by
      intro zero
      exact nonzero (UInt32.toNat_inj.mp zero)
    exact (Nat.max_eq_right (Nat.pos_of_ne_zero positive)).symm

/-- A reachable clock keeps its rate, and the limit last asked for. -/
theorem Reachable.settings {rate limit : UInt32} {clock : PulseClock}
    (reachable : Reachable rate limit clock) :
    clock.period = periodOf rate ∧
      clock.limit.toNat = max 1 limit.toNat := by
  induction reachable with
  | start => exact ⟨rfl, rfl⟩
  | withLimit limit _ ih => exact ⟨ih.1, limit_withLimit _ limit⟩
  | advance _ advanced ih =>
      rcases period_limit_advance advanced with ⟨period, limit⟩
      rw [period, limit]
      exact ih
  | reset _ ih => exact ih

theorem Reachable.sound {rate limit : UInt32} {clock : PulseClock}
    (reachable : Reachable rate limit clock) : clock.Sound := by
  induction reachable with
  | start =>
      have limit_pos : 0 < standardPulseLimit.toNat := by decide
      exact ⟨period_pos rate, limit_pos⟩
  | withLimit limit _ ih =>
      refine ⟨ih.carry_lt, ?_⟩
      rw [limit_withLimit]
      exact Nat.lt_of_lt_of_le Nat.zero_lt_one (Nat.le_max_left _ _)
  | advance _ advanced ih => exact ih.advance advanced
  | reset _ ih => exact ih.reset

end PulseClock

end Chip8
