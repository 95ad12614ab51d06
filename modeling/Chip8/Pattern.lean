import Chip8.Instruction

/-!
# Patterns of words

The pattern of an operation is read as slots that fill four nibbles together.
A digit is a slot with a fixed nibble; the others are operands or are not
looked at.  Two nibbles `kk` make one slot, and so do three nibbles `nnn`.

The fixed nibbles of a pattern say which words fit it, and the operands of an
instruction, put into the slots, give its word back but for the nibbles that
are not looked at.  Neither uses the decoder.
-/

namespace Chip8

/--
A part of a pattern: a fixed nibble, an operand, or a nibble that is not looked
at.
-/
inductive Slot where
  | digit (nibble : UInt8)
  | x
  | y
  | n
  | kk
  | addr
  | ignored
deriving DecidableEq, Repr

namespace Slot

/-- The nibble of an upper-case hexadecimal digit. -/
def digit? (character : Char) : Option UInt8 :=
  if '0' ≤ character ∧ character ≤ '9' then
    some (.ofNat (character.toNat - '0'.toNat))
  else if 'A' ≤ character ∧ character ≤ 'F' then
    some (.ofNat (character.toNat - 'A'.toNat + 10))
  else
    none

/-- The slots of a pattern, if it is one. -/
def ofPattern? : List Char → Option (List Slot)
  | [] => some []
  | 'n' :: 'n' :: 'n' :: rest => (ofPattern? rest).map (.addr :: ·)
  | 'k' :: 'k' :: rest => (ofPattern? rest).map (.kk :: ·)
  | 'n' :: rest => (ofPattern? rest).map (.n :: ·)
  | 'x' :: rest => (ofPattern? rest).map (.x :: ·)
  | 'y' :: rest => (ofPattern? rest).map (.y :: ·)
  | '_' :: rest => (ofPattern? rest).map (.ignored :: ·)
  | character :: rest =>
      match digit? character with
      | some nibble => (ofPattern? rest).map (.digit nibble :: ·)
      | none => none

/-- The nibbles that a slot fixes. -/
def fixed : Slot → List (Option UInt8)
  | .digit nibble => [some nibble]
  | .x => [none]
  | .y => [none]
  | .n => [none]
  | .kk => [none, none]
  | .addr => [none, none, none]
  | .ignored => [none]

/-- The nibbles that a slot has in an instruction. -/
def filled (instruction : Instruction) : Slot → List (Option UInt8)
  | .digit nibble => [some nibble]
  | .x => [some instruction.x]
  | .y => [some instruction.y]
  | .n => [some instruction.n]
  | .kk => [some (instruction.kk / 16), some (instruction.kk % 16)]
  | .addr =>
      [some (.ofNat (instruction.addr.toNat / 256)),
       some (.ofNat (instruction.addr.toNat / 16 % 16)),
       some (.ofNat (instruction.addr.toNat % 16))]
  | .ignored => [none]

/-- Whether nibbles are as some of them are asked to be. -/
def agree : List (Option UInt8) → List UInt8 → Bool
  | [], [] => true
  | none :: asked, _ :: nibbles => agree asked nibbles
  | some nibble :: asked, other :: nibbles =>
      nibble == other && agree asked nibbles
  | _, _ => false

end Slot

/-- The slots of an operation; the fallback has none. -/
def Operation.slots? (operation : Operation) : Option (List Slot) :=
  Slot.ofPattern? operation.pattern.toList

/-- Whether a word has the fixed nibbles of the pattern of an operation. -/
def Word.fits (word : Word) (operation : Operation) : Bool :=
  match operation.slots? with
  | some slots => Slot.agree (slots.flatMap Slot.fixed) word.nibbles
  | none => false

/--
Whether the operands of an instruction, put into the pattern of its operation,
give its word back but for the nibbles that are not looked at.
-/
def Instruction.refillsWord (instruction : Instruction) : Bool :=
  match instruction.operation.slots? with
  | some slots =>
      Slot.agree (slots.flatMap (Slot.filled instruction))
        instruction.word.nibbles
  | none => false

/-- Only the pattern of the fallback has no slots. -/
theorem Operation.slots?_eq_none_iff (operation : Operation) :
    operation.slots? = none ↔ operation = .noOperation := by
  cases operation <;> decide

end Chip8
