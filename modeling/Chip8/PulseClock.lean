import Chip8.Duration
import Chip8.Event

/-!
# Pulse clocks

A pulse clock turns elapsed time into a number of due pulses.  Time short of a
whole period is carried over.  When more pulses are due than the limit of the
clock, it reports as many as the limit and drops the rest of the backlog
together with the carried time.
-/

namespace Chip8

/-- Pulses per second, unless chosen otherwise. -/
def standardRefreshRate : UInt32 :=
  60

/-- Pulses reported at once, at most, unless chosen otherwise. -/
def standardPulseLimit : UInt32 :=
  4

/-- A clock that counts due pulses. -/
structure PulseClock where
  period : Duration
  /-- Elapsed time that is not yet counted in pulses. -/
  carry : Duration
  /-- The most pulses reported at once. -/
  limit : UInt32
deriving DecidableEq, Repr

namespace PulseClock

/--
The period of a rate: a second divided by the rate and cut to whole
nanoseconds, but at least one of them.  A rate of zero counts as one.
-/
def periodOf (rate : UInt32) : Duration :=
  .ofNanoseconds (max 1 (nanosecondsPerSecond / max 1 rate.toNat))

/-- A clock with a given rate of pulses per second. -/
def ofRate (rate : UInt32) : PulseClock where
  period := periodOf rate
  carry := .zero
  limit := standardPulseLimit

/-- The clock of the standard rate. -/
def standard : PulseClock :=
  ofRate standardRefreshRate

/-- The same clock with another limit, which is at least one. -/
def withLimit (clock : PulseClock) (limit : UInt32) : PulseClock :=
  { clock with limit := if limit = 0 then 1 else limit }

/-- How much time is left until the next pulse is due. -/
def remaining (clock : PulseClock) : Duration :=
  clock.period.subtractOrZero clock.carry

/-- Drop the carried time. -/
def reset (clock : PulseClock) : PulseClock :=
  { clock with carry := .zero }

/-- What an advance of a clock brings. -/
structure Advance where
  pulses : UInt32
  clock : PulseClock
  events : List Event
deriving DecidableEq, Repr

/--
Let time elapse.  The clock is left as it was when a duration overflows.

The count of due pulses can exceed sixty-four bits; it is cut to them in the
event, and to thirty-two bits only once it is within the limit.
-/
def advance (clock : PulseClock) (elapsed : Duration) :
    Except DurationError Advance := do
  let carried ← clock.carry.add elapsed
  let due := carried.nanoseconds / clock.period.nanoseconds
  if clock.limit.toNat < due then
    return {
      pulses := clock.limit
      clock := clock.reset
      events := [.backlogDropped (.ofNat due) clock.limit] }
  else
    let pulses := UInt32.ofNat due
    let rest ← carried.subtract (← clock.period.times pulses)
    return { pulses, clock := { clock with carry := rest }, events := [] }

end PulseClock

end Chip8
