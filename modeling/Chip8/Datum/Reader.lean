import Chip8.Datum.Basic
import Chip8.Speed.Basic

/-!
# Reading data

Readers turn data into values or say why they cannot.  Scalars are read by
their kind and range, named alternatives from a text or from a map with the
name as its only key, and records from a map or from a list.

A record is read by assigning its fields one after another.  A map assigns
the fields that its keys name, in the order of the keys, and a list assigns
the fields in the order of their declaration; all else is common to both.
-/

namespace Chip8.Datum

/-! ## Errors -/

/-- Why a datum could not be read. -/
inductive ReadError where
  | wrongKind (found : Kind) (expected : String)
  | wrongValue (found : Kind) (expected : String)
  | unknownName (name : String) (known : List String)
  | missingField (name : String)
  /-- A list ends before all fields of a record are assigned. -/
  | tooShort (length : Nat) (record : String) (fields : Nat)
  /-- A list goes on after all fields of a record are assigned. -/
  | tooLong (length : Nat)
  | invalidSpeed (error : SpeedError)
deriving DecidableEq, Repr

/-- A name as error texts show it. -/
def ticked (name : String) : String :=
  "`" ++ name ++ "`"

/-- The known names in an error text; two of them are joined by a word. -/
def alternatives : List String → String
  | [first, second] => ticked first ++ " or " ++ ticked second
  | known => "one of " ++ ", ".intercalate (known.map ticked)

/--
The text of an error, which says what was found and what would have done.
-/
def ReadError.message : ReadError → String
  | .wrongKind found expected =>
      "invalid type: " ++ found.describe ++ ", expected " ++ expected
  | .wrongValue found expected =>
      "invalid value: " ++ found.describe ++ ", expected " ++ expected
  | .unknownName name known =>
      "unknown variant " ++ ticked name ++ ", expected " ++
        alternatives known
  | .missingField name => "missing field " ++ ticked name
  | .tooShort length record fields =>
      "invalid length " ++ Numeral.decimal length ++ ", expected struct " ++
        record ++ " with " ++ Numeral.decimal fields ++ " elements"
  | .tooLong length =>
      "invalid length " ++ Numeral.decimal length ++
        ", expected fewer elements in array"
  | .invalidSpeed error => error.message

/-- A way to read values of a type. -/
abbrev Reader (α : Type) :=
  Datum → Except ReadError α

/-! ## Scalars -/

/-- Read a natural number below a limit. -/
def readBelow (limit : Nat) (expected : String) : Reader Nat
  | .int value =>
      if 0 ≤ value ∧ value < limit then
        .ok value.toNat
      else
        .error (.wrongValue (.int value) expected)
  | other => .error (.wrongKind other.kind expected)

/-- Read a number of eight bits. -/
def readUInt8 : Reader UInt8 :=
  fun datum => (readBelow UInt8.size "u8" datum).map UInt8.ofNat

/-- Read a number of sixteen bits. -/
def readUInt16 : Reader UInt16 :=
  fun datum => (readBelow UInt16.size "u16" datum).map UInt16.ofNat

/-- Read a number of thirty-two bits. -/
def readUInt32 : Reader UInt32 :=
  fun datum => (readBelow UInt32.size "u32" datum).map UInt32.ofNat

/-- Read the size of a collection, which has sixty-four bits. -/
def readSize : Reader UInt64 :=
  fun datum => (readBelow UInt64.size "usize" datum).map UInt64.ofNat

/-- Read a truth value. -/
def readBool : Reader Bool
  | .bool value => .ok value
  | other => .error (.wrongKind other.kind "a boolean")

/-! ## Named alternatives -/

/-- Find an alternative by its name. -/
def readName {α : Type} (name : α → String) (known : List α)
    (chosen : String) : Except ReadError α :=
  match known.find? (name · == chosen) with
  | some value => .ok value
  | none => .error (.unknownName chosen (known.map name))

/--
Read one of some named alternatives.  The name is looked up before the value
beside it, which has to be null, is looked at.
-/
def readAlternative {α : Type} (name : α → String) (known : List α) :
    Reader α
  | .text chosen => readName name known chosen
  | .map [(key, payload)] => do
      let value ← readName name known key
      match payload with
      | .null => return value
      | other => throw (.wrongKind other.kind "unit")
  | .map _ => .error (.wrongValue .map "map with a single key")
  | other => .error (.wrongKind other.kind "string or map")

/-! ## Records -/

/-- A field of a record that is being put together in a draft. -/
structure RecordField (δ : Type) where
  name : String
  /-- Read a value for the field and give the change it makes. -/
  update : Reader (δ → δ)

/-- A field read by a reader and stored by a function. -/
def RecordField.of {δ β : Type} (name : String) (read : Reader β)
    (store : β → δ → δ) : RecordField δ :=
  ⟨name, fun datum => (read datum).map store⟩

/-- Read values for fields one after another into a draft. -/
def assign {δ : Type} (draft : δ) :
    List (RecordField δ × Datum) → Except ReadError δ
  | [] => .ok draft
  | (field, value) :: rest =>
      match field.update value with
      | .ok change => assign (change draft) rest
      | .error error => .error error

/-- The fields that the keys of a map name, with their values. -/
def named {δ : Type} (fields : List (RecordField δ))
    (entries : List (String × Datum)) : List (RecordField δ × Datum) :=
  entries.filterMap fun entry =>
    (fields.find? (·.name == entry.1)).map fun field => (field, entry.2)

/-- A list may not have more elements than there are fields. -/
def checkLength {δ : Type} (fields : List (RecordField δ))
    (items : List Datum) : Except ReadError Unit :=
  if fields.length < items.length then
    .error (.tooLong items.length)
  else
    .ok ()

/-- Read a record whose missing fields keep the values of a default. -/
def readOverlay {δ : Type} (record : String) (fields : List (RecordField δ))
    (default : δ) : Reader δ
  | .map entries => assign default (named fields entries)
  | .list items => do
      let value ← assign default (fields.zip items)
      checkLength fields items
      return value
  | other => .error (.wrongKind other.kind ("struct " ++ record))

/--
Read a record all of whose fields are required.  A list that is too short is
told by its length, a map by the first field that it leaves out.
-/
def readRecord {δ α : Type} (record : String) (fields : List (RecordField δ))
    (empty : δ) (finish : δ → Except ReadError α) : Reader α
  | .map entries => do
      finish (← assign empty (named fields entries))
  | .list items => do
      let draft ← assign empty (fields.zip items)
      if items.length < fields.length then
        throw (.tooShort items.length record fields.length)
      checkLength fields items
      finish draft
  | other => .error (.wrongKind other.kind ("struct " ++ record))

/-- A required field of a finished draft. -/
def required {β : Type} (name : String) (value : Option β) :
    Except ReadError β :=
  match value with
  | some value => .ok value
  | none => .error (.missingField name)

/-! ## Laws of assignment -/

@[simp]
theorem assign_nil {δ : Type} (draft : δ) : assign draft [] = .ok draft :=
  rfl

end Chip8.Datum
