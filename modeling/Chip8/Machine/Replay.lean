import Chip8.Listing
import Chip8.Machine.Basic

/-!
# Replaying a program

A replay executes the words of a program in order, without looking at what
they mean, and starts again after the last one.  An empty program executes the
zero word.  A replay never fails.
-/

namespace Chip8

/-- A program and how far it has been replayed. -/
structure Replay where
  program : List Word
  /-- Where in the program the next word stands. -/
  position : Nat
  ticks : Nat
deriving DecidableEq, Repr, Inhabited

namespace Replay

/-- A program at its first word. -/
def ofProgram (program : List Word) : Replay :=
  ⟨program, 0, 0⟩

/-- The program of the words of an image. -/
def ofImage (image : List UInt8) : Replay :=
  ofProgram (Word.ofImage image)

/-- The word that the next tick executes. -/
def next (replay : Replay) : Word :=
  replay.program[replay.position]?.getD ⟨0⟩

/-- The replay after one more tick. -/
def advance (replay : Replay) : Replay where
  program := replay.program
  position :=
    if replay.position < replay.program.length then
      (replay.position + 1) % replay.program.length
    else
      replay.position
  ticks := replay.ticks + 1

/-- The words of some consecutive ticks, and the replay after them. -/
def take : Nat → Replay → List Word × Replay
  | 0, replay => ([], replay)
  | count + 1, replay =>
      let (words, last) := take count replay.advance
      (replay.next :: words, last)

/-- The machine that replays programs. -/
def machine : Machine Replay Empty where
  tick replay := ⟨.ok replay.next, replay.advance, []⟩
  describe := nofun

@[simp]
theorem program_advance (replay : Replay) :
    replay.advance.program = replay.program :=
  rfl

@[simp]
theorem ticks_advance (replay : Replay) :
    replay.advance.ticks = replay.ticks + 1 :=
  rfl

end Replay

end Chip8
