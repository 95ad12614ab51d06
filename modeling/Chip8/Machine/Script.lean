import Chip8.Machine.Basic

/-!
# Scripted machines

A scripted machine executes the words of a program in a circle, and fails at
chosen ticks.  Ticks are counted from one, the failing ones included.
-/

namespace Chip8

/-- The words of a machine, and the ticks at which it fails instead. -/
structure Script where
  program : List Word
  /-- The numbers of the ticks that fail. -/
  failing : List Nat
  fault : String
deriving DecidableEq, Repr

/-- A tick of a script that failed. -/
structure Script.Failure where
  fault : String
  tick : Nat
deriving DecidableEq, Repr

namespace Script

/-- The text of a failure names the tick. -/
def Failure.message (failure : Failure) : String :=
  failure.fault ++ " at tick " ++ Numeral.decimal failure.tick

/-- What the tick with a given number does. -/
def resultAt (script : Script) (tick : Nat) : Except Failure Word :=
  if tick ∈ script.failing then
    .error ⟨script.fault, tick⟩
  else
    .ok (script.program[(tick - 1) % script.program.length]?.getD ⟨0⟩)

/-- The machine of a script; its state is the number of ticks so far. -/
def machine (script : Script) : Machine Nat Failure where
  tick ticks := ⟨script.resultAt (ticks + 1), ticks + 1, []⟩
  describe := Failure.message

end Script

end Chip8
