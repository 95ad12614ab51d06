import Chip8.Pacer.Basic

/-!
# Cycles

A cycle ticks the machine once.  If the tick executed a word, the cycle is
counted, and the word is decoded into the history if capture is on; a tick
that failed leaves only the machine changed.  Pulses and steps execute their
cycles alike.
-/

namespace Chip8

/--
What one cycle comes to: a word or a failure, the pacer after it, and what was
told on the way.
-/
structure Cycle (σ ε : Type) where
  result : Except ε Word
  pacer : Pacer σ
  events : List Event

/-- How far the cycles of a pulse have come. -/
structure Progress (σ ε : Type) where
  executed : Nat
  /-- The failure that ended the pulse, if one did. -/
  failure : Option ε
  pacer : Pacer σ
  /-- The events, newest first. -/
  trail : List Event

namespace Progress

variable {σ ε : Type}

/-- A pulse that has executed nothing so far. -/
def start (pacer : Pacer σ) : Progress σ ε :=
  ⟨0, none, pacer, []⟩

/-- The events so far, oldest first. -/
def events (progress : Progress σ ε) : List Event :=
  progress.trail.reverse

/-- Count a cycle that executed a word. -/
def advance (progress : Progress σ ε) (cycle : Cycle σ ε) :
    Progress σ ε where
  executed := progress.executed + 1
  failure := none
  pacer := cycle.pacer
  trail := cycle.events.reverse ++ progress.trail

/-- End with a cycle that failed. -/
def fail (progress : Progress σ ε) (cycle : Cycle σ ε) (cause : ε) :
    Progress σ ε where
  executed := progress.executed
  failure := some cause
  pacer := cycle.pacer
  trail := cycle.events.reverse ++ progress.trail

end Progress

namespace Pacer

variable {σ ε : Type}

/-- The events by which an executed word is observed. -/
def observe (pacer : Pacer σ) (word : Word) : List Event :=
  if pacer.config.capture then
    [.executed word (pacer.decode word).operation]
  else
    []

/-- Count an executed word, and record it if capture is on. -/
def account (pacer : Pacer σ) (word : Word) (state : σ) : Pacer σ :=
  { pacer with
    machineState := state
    cycleCount := pacer.cycleCount + 1
    history :=
      if pacer.config.capture then
        pacer.history.push (pacer.decode word)
      else
        pacer.history }

/-- Tick the machine once; a failing tick is not counted. -/
def executeCycle (machine : Machine σ ε) (pacer : Pacer σ) : Cycle σ ε :=
  let tick := machine.tick pacer.machineState
  match tick.result with
  | .ok word =>
      { result := .ok word
        pacer := pacer.account word tick.state
        events := tick.events ++ pacer.observe word }
  | .error cause =>
      { result := .error cause
        pacer := { pacer with machineState := tick.state }
        events := tick.events }

/-- Execute a number of further cycles, up to the first failure. -/
def executeCycles (machine : Machine σ ε) :
    Nat → Progress σ ε → Progress σ ε
  | 0, progress => progress
  | remaining + 1, progress =>
      let cycle := progress.pacer.executeCycle machine
      match cycle.result with
      | .ok _ => executeCycles machine remaining (progress.advance cycle)
      | .error cause => progress.fail cycle cause

end Pacer

end Chip8
