import Chip8.Datum.Reader
import Chip8.Pacer.Config

/-!
# Data forms of the public types

Each public type has a written form and a reader that accepts it, and more:
named alternatives also as maps with one key, records also as lists, records
with defaults also in part, and speeds also unreduced.
-/

namespace Chip8

open Datum

/-! ## Words and operations -/

/-- A word is its number. -/
def Word.toDatum (word : Word) : Datum :=
  .nat word.toNat

/-- Read a word from a number of sixteen bits. -/
def Word.ofDatum : Reader Word :=
  fun datum => (readUInt16 datum).map Word.mk

/-- An operation is its identifier. -/
def Operation.toDatum (operation : Operation) : Datum :=
  .text operation.name

/-- Read an operation from one of the identifiers. -/
def Operation.ofDatum : Reader Operation :=
  readAlternative Operation.name Operation.all

/-! ## Dialects -/

/-- A rule for the zero group is its identifier. -/
def ZeroGroup.toDatum (rule : ZeroGroup) : Datum :=
  .text rule.name

/-- Read a rule for the zero group from one of the identifiers. -/
def ZeroGroup.ofDatum : Reader ZeroGroup :=
  readAlternative ZeroGroup.name ZeroGroup.all

/-- A dialect is a record of its one rule. -/
def Dialect.toDatum (dialect : Dialect) : Datum :=
  .map [("zero_group", dialect.zeroGroup.toDatum)]

/-- The field of a dialect. -/
def Dialect.fields : List (RecordField Dialect) :=
  [.of "zero_group" ZeroGroup.ofDatum fun value dialect =>
    { dialect with zeroGroup := value }]

/-- Read a dialect; choices left out are the standard ones. -/
def Dialect.ofDatum : Reader Dialect :=
  readOverlay "DecodeOptions" fields .standard

/-! ## Instructions -/

/-- An instruction is a record of the word, the operation and the operands. -/
def Instruction.toDatum (instruction : Instruction) : Datum :=
  .map
    [("addr", .nat instruction.addr.toNat),
     ("kk", .nat instruction.kk.toNat),
     ("mnemonic", instruction.operation.toDatum),
     ("n", .nat instruction.n.toNat),
     ("opcode", instruction.word.toDatum),
     ("x", .nat instruction.x.toNat),
     ("y", .nat instruction.y.toNat)]

/-- An instruction some of whose fields have been read. -/
structure Instruction.Draft where
  word : Option Word := none
  operation : Option Operation := none
  x : Option UInt8 := none
  y : Option UInt8 := none
  n : Option UInt8 := none
  kk : Option UInt8 := none
  addr : Option UInt16 := none

/-- The fields of an instruction, in the order of its lists. -/
def Instruction.fields : List (RecordField Instruction.Draft) :=
  [.of "opcode" Word.ofDatum fun value draft =>
      { draft with word := some value },
   .of "mnemonic" Operation.ofDatum fun value draft =>
      { draft with operation := some value },
   .of "x" readUInt8 fun value draft => { draft with x := some value },
   .of "y" readUInt8 fun value draft => { draft with y := some value },
   .of "n" readUInt8 fun value draft => { draft with n := some value },
   .of "kk" readUInt8 fun value draft => { draft with kk := some value },
   .of "addr" readUInt16 fun value draft =>
      { draft with addr := some value }]

/-- The instruction of a draft in which no field is missing. -/
def Instruction.Draft.finish (draft : Instruction.Draft) :
    Except ReadError Instruction := do
  let word ← required "opcode" draft.word
  let operation ← required "mnemonic" draft.operation
  let x ← required "x" draft.x
  let y ← required "y" draft.y
  let n ← required "n" draft.n
  let kk ← required "kk" draft.kk
  let addr ← required "addr" draft.addr
  return { word, operation, x, y, n, kk, addr }

/-- Read an instruction; its fields need not agree with its word. -/
def Instruction.ofDatum : Reader Instruction :=
  readRecord "InstructionDescriptor" fields {} Draft.finish

/-! ## Speeds -/

/-- A speed is a record of its reduced parts. -/
def Speed.toDatum (speed : Speed) : Datum :=
  .map
    [("denominator", .nat speed.denominator),
     ("numerator", .nat speed.numerator)]

/-- A speed some of whose parts have been read. -/
structure Speed.Draft where
  numerator : Option UInt32 := none
  denominator : Option UInt32 := none

/-- The parts of a speed, in the order of its lists. -/
def Speed.fields : List (RecordField Speed.Draft) :=
  [.of "numerator" readUInt32 fun value draft =>
      { draft with numerator := some value },
   .of "denominator" readUInt32 fun value draft =>
      { draft with denominator := some value }]

/-- The speed with the ratio of a draft, in lowest terms. -/
def Speed.Draft.finish (draft : Speed.Draft) :
    Except ReadError Speed := do
  let numerator ← required "numerator" draft.numerator
  let denominator ← required "denominator" draft.denominator
  (Speed.ofRatio numerator denominator).mapError .invalidSpeed

/-- Read a speed; its parts need not be reduced. -/
def Speed.ofDatum : Reader Speed :=
  readRecord "RawSpeed" fields {} Draft.finish

/-! ## Paces -/

/-- A mode is its identifier. -/
def Mode.toDatum (mode : Mode) : Datum :=
  .text mode.name

/-- Read a mode from one of the identifiers. -/
def Mode.ofDatum : Reader Mode :=
  readAlternative Mode.name Mode.all

/-- A pace is a record of its mode and its speed. -/
def Pace.toDatum (pace : Pace) : Datum :=
  .map [("mode", pace.mode.toDatum), ("speed", pace.speed.toDatum)]

/-- A pace some of whose fields have been read. -/
structure Pace.Draft where
  mode : Option Mode := none
  speed : Option Speed := none

/-- The fields of a pace, in the order of its lists. -/
def Pace.fields : List (RecordField Pace.Draft) :=
  [.of "mode" Mode.ofDatum fun value draft =>
      { draft with mode := some value },
   .of "speed" Speed.ofDatum fun value draft =>
      { draft with speed := some value }]

/-- The pace of a draft in which no field is missing. -/
def Pace.Draft.finish (draft : Pace.Draft) :
    Except ReadError Pace := do
  let mode ← required "mode" draft.mode
  let speed ← required "speed" draft.speed
  return { mode, speed }

/-- Read a pace; both fields are needed. -/
def Pace.ofDatum : Reader Pace :=
  readRecord "RunState" fields {} Draft.finish

/-! ## Configurations -/

/-- A configuration is a record of all its choices. -/
def Config.toDatum (config : Config) : Datum :=
  .map
    [("base_cycles_per_pulse", .nat config.baseCycles.toNat),
     ("capture", .bool config.capture),
     ("decode", config.dialect.toDatum),
     ("history_capacity", .nat config.historyCapacity.toNat),
     ("initial_speed", config.initialSpeed.toDatum)]

/-- The fields of a configuration, in the order of its lists. -/
def Config.fields : List (RecordField Config) :=
  [.of "base_cycles_per_pulse" readUInt32 fun value config =>
      { config with baseCycles := value },
   .of "initial_speed" Speed.ofDatum fun value config =>
      { config with initialSpeed := value },
   .of "capture" readBool fun value config =>
      { config with capture := value },
   .of "history_capacity" readSize fun value config =>
      { config with historyCapacity := value },
   .of "decode" Dialect.ofDatum fun value config =>
      { config with dialect := value }]

/-- Read a configuration; choices left out are the standard ones. -/
def Config.ofDatum : Reader Config :=
  readOverlay "SchedulerConfig" fields .standard

end Chip8
