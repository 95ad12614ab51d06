import Chip8.Machine.Replay
import Chip8.Proofs.Machine.Attempt

/-!
# Replays as walks around a program

Where a replay stands in its program is told by the number of its ticks alone,
counted around the program.  So any number of further ticks execute the words
that are found by counting on, by `attempt_afterTicks`.
-/

namespace Chip8.Replay

/-- The word that stands at a tick of a replay; ticks are counted from zero. -/
def wordAt (program : List Word) (tick : Nat) : Word :=
  program[tick % program.length]?.getD ⟨0⟩

/-- The replay of a program after some ticks. -/
def afterTicks (program : List Word) (ticks : Nat) : Replay where
  program := program
  position := if 0 < program.length then ticks % program.length else 0
  ticks := ticks

theorem ofProgram_eq_afterTicks (program : List Word) :
    ofProgram program = afterTicks program 0 := by
  rw [ofProgram, afterTicks, Nat.zero_mod, ite_self]

theorem next_afterTicks (program : List Word) (ticks : Nat) :
    (afterTicks program ticks).next = wordAt program ticks := by
  cases program with
  | nil => rfl
  | cons first rest => rfl

theorem advance_afterTicks (program : List Word) (ticks : Nat) :
    (afterTicks program ticks).advance = afterTicks program (ticks + 1) := by
  cases program with
  | nil => rfl
  | cons first rest =>
      have inside :
          ticks % (first :: rest).length < (first :: rest).length :=
        Nat.mod_lt _ (Nat.zero_lt_succ _)
      have around :=
        Nat.mod_add_mod ticks (first :: rest).length 1
      simp only [advance, afterTicks, List.length_cons, Nat.zero_lt_succ,
        if_true] at inside around ⊢
      rw [if_pos inside, around]

/-- Ticks go around the program, from wherever earlier ticks have led. -/
theorem attempt_afterTicks (program : List Word) (ticks count : Nat) :
    machine.attempt count (afterTicks program ticks) =
      ⟨afterTicks program (ticks + count),
        ((List.range' ticks count).map (wordAt program)).map .ok⟩ := by
  induction count generalizing ticks with
  | zero => rfl
  | succ count ih =>
      have tick :
          machine.tick (afterTicks program ticks) =
            ⟨.ok (wordAt program ticks), afterTicks program (ticks + 1),
              []⟩ := by
        rw [← next_afterTicks, ← advance_afterTicks]
        rfl
      rw [Machine.attempt_succ, tick, ih, Nat.add_right_comm]
      rfl

end Chip8.Replay
