import Chip8.Operation
import Chip8.Word

/-!
# Instructions

An instruction is a word together with its operation and its operand fields.
Decoding is total: a word that encodes no operation becomes an instruction
with the fallback operation.  `decodeKnown` refuses such a word instead.

Words of group zero can be told apart by two rules, collected with any later
reading choices in a `Dialect`.
-/

namespace Chip8

/-! ## Dialects -/

/-- How words of group zero are told apart. -/
inductive ZeroGroup where
  /-- `00E0` clears the screen, `00EE` returns, and no other word counts. -/
  | fullByte
  /-- A low nibble of zero clears the screen, any other returns. -/
  | lowNibble
deriving DecidableEq, Repr, Inhabited

namespace ZeroGroup

/-- Both rules, in the order in which they are listed. -/
def all : List ZeroGroup :=
  [.fullByte, .lowNibble]

/-- The identifier of a rule. -/
def name : ZeroGroup → String
  | .fullByte => "FullByte"
  | .lowNibble => "LowNibble"

/-- The operation of a word of group zero under a rule. -/
def operation (rule : ZeroGroup) (word : Word) : Operation :=
  match rule with
  | .fullByte =>
      if word = ⟨0x00E0⟩ then
        .clearScreen
      else if word = ⟨0x00EE⟩ then
        .returnCall
      else
        .noOperation
  | .lowNibble =>
      if word.n = 0 then .clearScreen else .returnCall

end ZeroGroup

/-- The choices under which words are read. -/
structure Dialect where
  zeroGroup : ZeroGroup := .fullByte
deriving DecidableEq, Repr, Inhabited

/-- Group zero is told apart by the full word unless asked otherwise. -/
def Dialect.standard : Dialect :=
  ⟨.fullByte⟩

/-! ## The operation of a word -/

/-- Arithmetic on two registers, chosen by the last nibble. -/
def Operation.ofArithmetic (n : UInt8) : Operation :=
  match n with
  | 0x0 => .assign
  | 0x1 => .bitOr
  | 0x2 => .bitAnd
  | 0x3 => .bitXor
  | 0x4 => .addRegister
  | 0x5 => .subtract
  | 0x6 => .shiftRight
  | 0x7 => .reverseSubtract
  | 0xE => .shiftLeft
  | _ => .noOperation

/-- Skips on keys, chosen by the last nibble alone. -/
def Operation.ofKey (n : UInt8) : Operation :=
  match n with
  | 0xE => .skipIfKeyPressed
  | 0x1 => .skipIfKeyNotPressed
  | _ => .noOperation

/-- Timers, keys, the index and memory, chosen by the low byte. -/
def Operation.ofDevice (kk : UInt8) : Operation :=
  match kk with
  | 0x07 => .getDelayTimer
  | 0x0A => .awaitKeyPress
  | 0x15 => .setDelayTimer
  | 0x18 => .setSoundTimer
  | 0x1E => .addToIndex
  | 0x29 => .spriteIndex
  | 0x33 => .binaryCodedDecimal
  | 0x55 => .storeRegisters
  | 0x65 => .loadRegisters
  | _ => .noOperation

/-- The operation that a word encodes, or the fallback. -/
def Operation.ofWord (rule : ZeroGroup) (word : Word) : Operation :=
  match word.group with
  | 0x0 => rule.operation word
  | 0x1 => .jump
  | 0x2 => .call
  | 0x3 => .skipIfEqualImmediate
  | 0x4 => .skipIfNotEqualImmediate
  | 0x5 => .skipIfEqualRegister
  | 0x6 => .loadImmediate
  | 0x7 => .addImmediate
  | 0x8 => .ofArithmetic word.n
  | 0x9 => .skipIfNotEqualRegister
  | 0xA => .setIndex
  | 0xB => .jumpIndexed
  | 0xC => .randomMask
  | 0xD => .draw
  | 0xE => .ofKey word.n
  | 0xF => .ofDevice word.kk
  | _ => .noOperation

/-! ## Decoding -/

/-- A word with its operation and all its operand fields. -/
structure Instruction where
  word : Word
  operation : Operation
  x : UInt8
  y : UInt8
  n : UInt8
  kk : UInt8
  addr : UInt16
deriving DecidableEq, Repr, Inhabited

namespace Instruction

/-- The instruction of a word with a given operation. -/
def ofParts (word : Word) (operation : Operation) : Instruction where
  word := word
  operation := operation
  x := word.x
  y := word.y
  n := word.n
  kk := word.kk
  addr := word.addr

/-- Read a word under a dialect; every word has an instruction. -/
def decode (dialect : Dialect) (word : Word) : Instruction :=
  ofParts word (.ofWord dialect.zeroGroup word)

/-- The label of its operation. -/
def label (instruction : Instruction) : String :=
  instruction.operation.label

/-- Whether its operation is one of the instruction set. -/
def isKnown (instruction : Instruction) : Bool :=
  instruction.operation.isKnown

@[simp]
theorem decode_word (dialect : Dialect) (word : Word) :
    (decode dialect word).word = word :=
  rfl

@[simp]
theorem decode_operation (dialect : Dialect) (word : Word) :
    (decode dialect word).operation =
      .ofWord dialect.zeroGroup word :=
  rfl

/-- A word was refused because it encodes no operation. -/
structure UnknownWord where
  word : Word
deriving DecidableEq, Repr

/-- The text of the refusal names the word. -/
def UnknownWord.message (refused : UnknownWord) : String :=
  "opcode " ++ refused.word.text ++
    " is not a recognised CHIP-8 instruction"

/-- Read a word in the standard dialect, refusing the fallback. -/
def decodeKnown (word : Word) : Except UnknownWord Instruction :=
  let instruction := decode .standard word
  if instruction.isKnown then
    .ok instruction
  else
    .error ⟨word⟩

end Instruction

end Chip8
