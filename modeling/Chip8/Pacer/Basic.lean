import Chip8.Machine.Basic
import Chip8.Pacer.Config
import Chip8.Window

/-!
# Pacing a machine

A pacer executes cycles of a machine on the pulses of a host.  While it is
running, each pulse executes a number of cycles that is fixed when the pulse
starts; while it is paused, pulses execute nothing, and single cycles can be
asked for.  A failure of the machine pauses the pacer.

With capture on, every executed word is decoded into a history of bounded
length.
-/

namespace Chip8

/-- The state of a machine together with that of its run. -/
structure Pacer (σ : Type) where
  machineState : σ
  pace : Pace
  config : Config
  history : Window Instruction
  /--
  Cycles executed so far, single ones included.  Both counts are unbounded;
  those of sixty-four bits agree with them until they wrap around, which takes
  `2 ^ 64` cycles or pulses.
  -/
  cycleCount : Nat
  /-- Pulses so far, ignored ones included. -/
  pulseCount : Nat
deriving Repr

/-- What a pulse did, in numbers. -/
structure PulseSummary where
  mode : Mode
  planned : Nat
  executed : Nat
deriving DecidableEq, Repr

/-- A failure of a machine, after some cycles of the same pulse. -/
structure MachineFailure (ε : Type) where
  cycles : Nat
  cause : ε
deriving DecidableEq, Repr

/-- The text of a failure, in which the cause is described by its machine. -/
def MachineFailure.message {ε : Type} (describe : ε → String)
    (failure : MachineFailure ε) : String :=
  "engine failed after " ++ Numeral.decimal failure.cycles ++
    " cycles: " ++ describe failure.cause

/--
What the host is told in return for a command.  There is one sum for all
commands: a pulse is told `pulsed` or `failed`, a step `stepped` or `failed`,
and every other command `done`.
-/
inductive Reply (ε : Type) where
  | pulsed (summary : PulseSummary)
  | stepped (instruction : Option Instruction)
  | done
  | failed (failure : MachineFailure ε)
deriving DecidableEq, Repr

/--
What a command brings: a reply, the pacer after it, and what was told on the
way.
-/
structure Outcome (σ ε : Type) where
  reply : Reply ε
  pacer : Pacer σ
  events : List Event

namespace Pacer

variable {σ ε : Type}

/-- Start a run with a configuration. -/
def start (config : Config) (state : σ) : Pacer σ where
  machineState := state
  pace := ⟨.running, config.initialSpeed⟩
  config := config
  history := .empty config.historyCapacity.toNat
  cycleCount := 0
  pulseCount := 0

/-- Whether pulses execute nothing. -/
def isPaused (pacer : Pacer σ) : Bool :=
  pacer.pace.isPaused

/-- Cycles that the next pulse executes while running. -/
def pulseCycles (pacer : Pacer σ) : Nat :=
  pacer.pace.speed.cycles pacer.config.baseCycles

/-- Read a word as the configuration says. -/
def decode (pacer : Pacer σ) (word : Word) : Instruction :=
  .decode pacer.config.dialect word

/-- The pacer in a given mode, and otherwise as it was. -/
def withMode (pacer : Pacer σ) (mode : Mode) : Pacer σ :=
  { pacer with pace := { pacer.pace with mode } }

end Pacer

end Chip8
