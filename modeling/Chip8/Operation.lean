/-!
# Operations

The thirty-four CHIP-8 operations and the fallback for words that encode none
of them.  Each has an identifier, a label for people, and the pattern of the
words that encode it.

In a pattern an upper-case hexadecimal digit stands for itself, `x`, `y`, `n`
and `k` stand for any nibble of the field they name, and `_` for a nibble that
is not looked at.  The fallback has no words of its own.
-/

namespace Chip8

/-- What an instruction word asks the machine to do. -/
inductive Operation where
  | clearScreen
  | returnCall
  | jump
  | call
  | skipIfEqualImmediate
  | skipIfNotEqualImmediate
  | skipIfEqualRegister
  | loadImmediate
  | addImmediate
  | assign
  | bitOr
  | bitAnd
  | bitXor
  | addRegister
  | subtract
  | shiftRight
  | reverseSubtract
  | shiftLeft
  | skipIfNotEqualRegister
  | setIndex
  | jumpIndexed
  | randomMask
  | draw
  | skipIfKeyPressed
  | skipIfKeyNotPressed
  | getDelayTimer
  | awaitKeyPress
  | setDelayTimer
  | setSoundTimer
  | addToIndex
  | spriteIndex
  | binaryCodedDecimal
  | storeRegisters
  | loadRegisters
  | noOperation
deriving DecidableEq, Repr, Inhabited

namespace Operation

/-- Every operation in encoding order, the fallback last. -/
def all : List Operation :=
  [.clearScreen,
   .returnCall,
   .jump,
   .call,
   .skipIfEqualImmediate,
   .skipIfNotEqualImmediate,
   .skipIfEqualRegister,
   .loadImmediate,
   .addImmediate,
   .assign,
   .bitOr,
   .bitAnd,
   .bitXor,
   .addRegister,
   .subtract,
   .shiftRight,
   .reverseSubtract,
   .shiftLeft,
   .skipIfNotEqualRegister,
   .setIndex,
   .jumpIndexed,
   .randomMask,
   .draw,
   .skipIfKeyPressed,
   .skipIfKeyNotPressed,
   .getDelayTimer,
   .awaitKeyPress,
   .setDelayTimer,
   .setSoundTimer,
   .addToIndex,
   .spriteIndex,
   .binaryCodedDecimal,
   .storeRegisters,
   .loadRegisters,
   .noOperation]

/-- The identifier of an operation. -/
def name : Operation → String
  | .clearScreen => "ClearScreen"
  | .returnCall => "Return"
  | .jump => "Jump"
  | .call => "Call"
  | .skipIfEqualImmediate => "SkipIfEqualImmediate"
  | .skipIfNotEqualImmediate => "SkipIfNotEqualImmediate"
  | .skipIfEqualRegister => "SkipIfEqualRegister"
  | .loadImmediate => "LoadImmediate"
  | .addImmediate => "AddImmediate"
  | .assign => "Assign"
  | .bitOr => "Or"
  | .bitAnd => "And"
  | .bitXor => "Xor"
  | .addRegister => "AddRegister"
  | .subtract => "Subtract"
  | .shiftRight => "ShiftRight"
  | .reverseSubtract => "ReverseSubtract"
  | .shiftLeft => "ShiftLeft"
  | .skipIfNotEqualRegister => "SkipIfNotEqualRegister"
  | .setIndex => "SetIndex"
  | .jumpIndexed => "JumpIndexed"
  | .randomMask => "RandomMask"
  | .draw => "Draw"
  | .skipIfKeyPressed => "SkipIfKeyPressed"
  | .skipIfKeyNotPressed => "SkipIfKeyNotPressed"
  | .getDelayTimer => "GetDelayTimer"
  | .awaitKeyPress => "AwaitKeyPress"
  | .setDelayTimer => "SetDelayTimer"
  | .setSoundTimer => "SetSoundTimer"
  | .addToIndex => "AddToIndex"
  | .spriteIndex => "SpriteIndex"
  | .binaryCodedDecimal => "BinaryCodedDecimal"
  | .storeRegisters => "StoreRegisters"
  | .loadRegisters => "LoadRegisters"
  | .noOperation => "NoOperation"

/-- The label shown beside a word in listings and histories. -/
def label : Operation → String
  | .clearScreen => "Clear Screen"
  | .returnCall => "Return"
  | .jump => "Goto ADDR"
  | .call => "Call ADDR"
  | .skipIfEqualImmediate => "Skip If Vx == KK"
  | .skipIfNotEqualImmediate => "Skip If Vx != KK"
  | .skipIfEqualRegister => "Skip If Vx == Vy"
  | .loadImmediate => "Set Vx = KK"
  | .addImmediate => "Set Vx += KK"
  | .assign => "Set Vx = Vy"
  | .bitOr => "Set Vx = Vx | Vy"
  | .bitAnd => "Set Vx = Vx & Vy"
  | .bitXor => "Set Vx = Vx ^ Vy"
  | .addRegister => "Set Vx = Vx + Vy"
  | .subtract => "Set Vx = Vx - Vy"
  | .shiftRight => "Set Vx = Vx >> 1"
  | .reverseSubtract => "Set Vx = Vy - Vx"
  | .shiftLeft => "Set Vx = Vx << 1"
  | .skipIfNotEqualRegister => "Skip If Vx != Vy"
  | .setIndex => "Set I to ADDR"
  | .jumpIndexed => "Jump to ADDR + V0"
  | .randomMask => "Set Vx = rand() & KK"
  | .draw => "Draw N at (Vx, Vy)"
  | .skipIfKeyPressed => "Skip if KeyPressed(Vx)"
  | .skipIfKeyNotPressed => "Skip if not KeyPressed(Vx)"
  | .getDelayTimer => "Set Vx = DelayTimer"
  | .awaitKeyPress => "Set Vx = Await KeyPress"
  | .setDelayTimer => "Set DelayTimer = Vx"
  | .setSoundTimer => "Set SoundTimer = Vx"
  | .addToIndex => "Set I = I + Vx"
  | .spriteIndex => "Set I = Sprite[vX]"
  | .binaryCodedDecimal => "Convert Vx to Binary"
  | .storeRegisters => "Store V0..X to Mem starting at I"
  | .loadRegisters => "Load V0..X from Mem starting at I"
  | .noOperation => "No Operation"

/-- The pattern of the words that encode an operation. -/
def pattern : Operation → String
  | .clearScreen => "00E0"
  | .returnCall => "00EE"
  | .jump => "1nnn"
  | .call => "2nnn"
  | .skipIfEqualImmediate => "3xkk"
  | .skipIfNotEqualImmediate => "4xkk"
  | .skipIfEqualRegister => "5xy_"
  | .loadImmediate => "6xkk"
  | .addImmediate => "7xkk"
  | .assign => "8xy0"
  | .bitOr => "8xy1"
  | .bitAnd => "8xy2"
  | .bitXor => "8xy3"
  | .addRegister => "8xy4"
  | .subtract => "8xy5"
  | .shiftRight => "8xy6"
  | .reverseSubtract => "8xy7"
  | .shiftLeft => "8xyE"
  | .skipIfNotEqualRegister => "9xy_"
  | .setIndex => "Annn"
  | .jumpIndexed => "Bnnn"
  | .randomMask => "Cxkk"
  | .draw => "Dxyn"
  | .skipIfKeyPressed => "Ex_E"
  | .skipIfKeyNotPressed => "Ex_1"
  | .getDelayTimer => "Fx07"
  | .awaitKeyPress => "Fx0A"
  | .setDelayTimer => "Fx15"
  | .setSoundTimer => "Fx18"
  | .addToIndex => "Fx1E"
  | .spriteIndex => "Fx29"
  | .binaryCodedDecimal => "Fx33"
  | .storeRegisters => "Fx55"
  | .loadRegisters => "Fx65"
  | .noOperation => "----"

/-- Only the fallback is no operation of the instruction set. -/
def isKnown (operation : Operation) : Bool :=
  operation != .noOperation

/-- The operation with a given identifier. -/
def ofName? (name : String) : Option Operation :=
  all.find? (·.name == name)

@[simp]
theorem isKnown_eq_false_iff {operation : Operation} :
    operation.isKnown = false ↔ operation = .noOperation := by
  simp [isKnown]

theorem isKnown_iff {operation : Operation} :
    operation.isKnown = true ↔ operation ≠ .noOperation := by
  simp [isKnown]

theorem ofName?_name (operation : Operation) :
    ofName? operation.name = some operation := by
  cases operation <;> decide

end Operation

end Chip8
