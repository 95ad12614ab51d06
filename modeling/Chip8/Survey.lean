import Chip8.Instruction

/-!
# Surveys of the instruction set

A survey decodes consecutive words and sums up their operations as runs: an
operation and the number of neighbouring words that have it.
-/

namespace Chip8

/-- Put one more element in front of some runs. -/
def joinRun {α : Type} [DecidableEq α] (head : α) :
    List (α × Nat) → List (α × Nat)
  | [] => [(head, 1)]
  | (next, count) :: runs =>
      if head = next then
        (next, count + 1) :: runs
      else
        (head, 1) :: (next, count) :: runs

/-- The runs of equal neighbours in a list, with their lengths. -/
def runLengths {α : Type} [DecidableEq α] (elements : List α) :
    List (α × Nat) :=
  elements.foldr joinRun []

/-- At most `count` consecutive words from `start`, up to the greatest. -/
def Word.block (start : Word) (count : Nat) : List Word :=
  (List.range' start.toNat (min count (65536 - start.toNat))).map .ofNat

/-- The runs of operations over consecutive words. -/
def operationRuns (dialect : Dialect) (start : Word) (count : Nat) :
    List (Operation × Nat) :=
  runLengths ((start.block count).map fun word =>
    (Instruction.decode dialect word).operation)

end Chip8
