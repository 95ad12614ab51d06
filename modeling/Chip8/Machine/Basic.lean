import Chip8.Event

/-!
# Machines

A machine executes one instruction per tick and tells which word it was, or
fails.  Any type of states and any type of failures will do; a machine that
fails can be ticked again.
-/

namespace Chip8

/--
What a tick comes to: a word or a failure, the state after it, and what was
told on the way.
-/
structure Tick (σ ε : Type) where
  result : Except ε Word
  state : σ
  events : List Event

/-- A machine with states `σ` and failures `ε`. -/
structure Machine (σ ε : Type) where
  tick : σ → Tick σ ε
  describe : ε → String

end Chip8
