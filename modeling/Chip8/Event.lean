import Chip8.Operation
import Chip8.Speed.Text
import Chip8.Word

/-!
# Events

What happens in a run is told by events.  An event has a level, a message, and
fields; numbers stand in the fields in decimal, words and speeds in their own
texts, and operations by their labels.
-/

namespace Chip8

/-- How important an event is, the least first. -/
inductive Level where
  | trace
  | debug
  | warn
deriving DecidableEq, Repr

/-- The name of a level, in capitals. -/
def Level.name : Level → String
  | .trace => "TRACE"
  | .debug => "DEBUG"
  | .warn => "WARN"

/-- Something that happened in a run. -/
inductive Event where
  /-- A captured cycle executed a word. -/
  | executed (word : Word) (operation : Operation)
  | pulseComplete (pulse cycles : Nat)
  /-- A pulse came while pulses were paused. -/
  | pulseIgnored (pulse : Nat)
  | paused (cycleCount : Nat)
  | resumed (cycleCount : Nat)
  /-- A step was asked for while pulses were running. -/
  | stepIgnored
  /-- A single cycle was executed on request. -/
  | stepped (word : Word) (operation : Operation) (cycleCount : Nat)
  /-- The speed became a different one. -/
  | speedChanged (before after : Speed)
  /-- The machine failed after some cycles, and pulses were paused. -/
  | machineFailed (cycles : Nat) (error : String)
  /-- A clock reported fewer pulses than were due. -/
  | backlogDropped (due : UInt64) (delivered : UInt32)
  /-- An object of the host could not be given back. -/
  | releaseFailed (error : String)
deriving DecidableEq, Repr

namespace Event

/-- How important an event is. -/
def level : Event → Level
  | .executed .. => .trace
  | .pulseComplete .. => .trace
  | .pulseIgnored .. => .trace
  | .paused .. => .debug
  | .resumed .. => .debug
  | .stepIgnored => .trace
  | .stepped .. => .debug
  | .speedChanged .. => .debug
  | .machineFailed .. => .warn
  | .backlogDropped .. => .debug
  | .releaseFailed .. => .warn

/-- What an event says, whatever its fields. -/
def message : Event → String
  | .executed .. => "executed"
  | .pulseComplete .. => "pulse complete"
  | .pulseIgnored .. => "pulse ignored while paused"
  | .paused .. => "paused"
  | .resumed .. => "resumed"
  | .stepIgnored => "step ignored while running"
  | .stepped .. => "stepped"
  | .speedChanged .. => "speed changed"
  | .machineFailed .. => "engine failed, pausing"
  | .backlogDropped .. => "frame clock dropping backlog"
  | .releaseFailed .. => "tick result free() failed, object leaked"

/-- The names and the texts of the fields of an event. -/
def fields : Event → List (String × String)
  | .executed word operation =>
      [("opcode", word.text), ("mnemonic", operation.label)]
  | .pulseComplete pulse cycles =>
      [("pulse", Numeral.decimal pulse), ("cycles", Numeral.decimal cycles)]
  | .pulseIgnored pulse => [("pulse", Numeral.decimal pulse)]
  | .paused total => [("total_cycles", Numeral.decimal total)]
  | .resumed total => [("total_cycles", Numeral.decimal total)]
  | .stepIgnored => []
  | .stepped word operation total =>
      [("opcode", word.text), ("mnemonic", operation.label),
       ("total_cycles", Numeral.decimal total)]
  | .speedChanged before after =>
      [("from", before.text), ("to", after.text)]
  | .machineFailed cycles error =>
      [("cycles", Numeral.decimal cycles), ("error", error)]
  | .backlogDropped due delivered =>
      [("due", Numeral.decimal due.toNat),
       ("delivered", Numeral.decimal delivered.toNat)]
  | .releaseFailed error => [("error", error)]

end Event

end Chip8
