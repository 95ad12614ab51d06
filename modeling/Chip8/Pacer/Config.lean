import Chip8.Instruction
import Chip8.Speed.Basic

/-!
# Paces and configurations

The pace is what the host changes while a program runs: whether pulses execute
cycles, and at which speed.  A configuration is chosen before the run and
gives the values that a run starts from.
-/

namespace Chip8

/-- Whether pulses execute cycles. -/
inductive Mode where
  | running
  | paused
deriving DecidableEq, Repr, Inhabited

namespace Mode

/-- Both modes, in the order in which they are listed. -/
def all : List Mode :=
  [.running, .paused]

/-- The identifier of a mode. -/
def name : Mode → String
  | .running => "Running"
  | .paused => "Paused"

end Mode

/--
A mode and a speed; a pace is running at normal speed unless chosen otherwise.
-/
structure Pace where
  mode : Mode := .running
  speed : Speed := .normal
deriving DecidableEq, Repr, Inhabited

namespace Pace

/-- The pace for which nothing is chosen. -/
def standard : Pace :=
  {}

/-- Whether pulses execute nothing. -/
def isPaused (pace : Pace) : Bool :=
  pace.mode = .paused

end Pace

/-- Cycles of a pulse at normal speed, unless configured. -/
def standardBaseCycles : UInt32 :=
  10

/-- Rows that a history keeps, unless configured. -/
def standardHistoryCapacity : UInt64 :=
  20

/-- The choices with which a run starts. -/
structure Config where
  baseCycles : UInt32 := standardBaseCycles
  initialSpeed : Speed := .normal
  capture : Bool := true
  /-- How many of the newest instructions the history keeps. -/
  historyCapacity : UInt64 := standardHistoryCapacity
  dialect : Dialect := .standard
deriving DecidableEq, Repr, Inhabited

/-- The configuration of a run for which nothing is chosen. -/
def Config.standard : Config :=
  {}

end Chip8
