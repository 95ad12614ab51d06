import Chip8.Instruction

/-!
# Texts of instructions

An instruction is shown in three ways: as one line with every field named, as
a row of table cells, and in brief as a word and an identifier.
-/

namespace Chip8.Instruction

/-- The word, its label and every field by name, in one line. -/
def line (base : Base) (instruction : Instruction) : String :=
  base.write instruction.word.toNat ++ " " ++ instruction.label ++
    " x=" ++ base.write instruction.x.toNat ++
    " y=" ++ base.write instruction.y.toNat ++
    " n=" ++ base.write instruction.n.toNat ++
    " kk=" ++ base.write instruction.kk.toNat ++
    " addr=" ++ base.write instruction.addr.toNat

/-- Headings of the table whose rows are given by `row`. -/
def columns : List String :=
  ["Opcode", "Name", "X", "Y", "N", "KK", "ADDR"]

/-- Table cells: the label stands second, every number is hexadecimal. -/
def row (instruction : Instruction) : List String :=
  [Base.hexadecimal.write instruction.word.toNat,
   instruction.label,
   Base.hexadecimal.write instruction.x.toNat,
   Base.hexadecimal.write instruction.y.toNat,
   Base.hexadecimal.write instruction.n.toNat,
   Base.hexadecimal.write instruction.kk.toNat,
   Base.hexadecimal.write instruction.addr.toNat]

/-- The word and the identifier of its operation. -/
def brief (instruction : Instruction) : String :=
  instruction.word.text ++ " " ++ instruction.operation.name

@[simp]
theorem length_row (instruction : Instruction) :
    instruction.row.length = columns.length :=
  rfl

end Chip8.Instruction
