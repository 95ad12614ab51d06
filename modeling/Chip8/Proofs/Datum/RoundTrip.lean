import Chip8.Datum.Forms
import Chip8.Proofs.Datum.Reading
import Chip8.Proofs.Speed.Approximation
import Mathlib.Data.List.Basic

/-!
# Values that survive being written and read

Every public type is written as data and read from data.  A written value is
read back, by one lemma for each type: a record is read field by field, in the
order of its keys, and each field by the reader of its own type.  For speeds
this rests on a ratio in lowest terms being its own reduction.

What was read from data in any other form is written in the one form of its
value: a record as a map of all its fields in ascending order, an alternative
as its name, and a speed by its reduced parts.
-/

namespace Chip8

namespace Datum

variable {α β δ : Type}

/-! ## Forms -/

/-- All maps in a datum have their entries in ascending order of keys. -/
inductive Ascending : Datum → Prop where
  | scalar {datum : Datum} (noList : datum.kind ≠ .list)
      (noMap : datum.kind ≠ .map) : Ascending datum
  | list {items : List Datum} (inside : ∀ item ∈ items, Ascending item) :
      Ascending (.list items)
  | map {entries : List (String × Datum)}
      (sorted : (entries.map Prod.fst).Pairwise (· < ·))
      (inside : ∀ entry ∈ entries, Ascending entry.2) :
      Ascending (.map entries)

theorem ascending_nat (value : Nat) : (nat value).Ascending :=
  .scalar nofun nofun

theorem ascending_text (value : String) : (text value).Ascending :=
  .scalar nofun nofun

theorem ascending_map {entries : List (String × Datum)}
    (keys : List String) (named : entries.map Prod.fst = keys)
    (sorted : keys.Pairwise (· < ·))
    (inside : (entries.map Prod.snd).Forall Ascending) :
    (Datum.map entries).Ascending := by
  subst named
  refine .map sorted ?_
  intro entry member
  exact List.forall_iff_forall_mem.mp inside entry.2
    (List.mem_map_of_mem member)

/--
A type is written in a form that is read back.  Data in any form come to the
form of the value that is read from them, and forms are left as they are.
-/
structure RoundTrips (write : α → Datum) (read : Reader α) : Prop where
  read_write (value : α) : read (write value) = .ok value
  read_form (datum form : Datum) :
    (read datum).map write = .ok form →
      read form = read datum ∧ (read form).map write = .ok form ∧
        form.Ascending

theorem RoundTrips.of {write : α → Datum} {read : Reader α}
    (read_write : ∀ value, read (write value) = .ok value)
    (ascending : ∀ value, (write value).Ascending) :
    RoundTrips write read where
  read_write := read_write
  read_form datum form written := by
    rcases exists_of_map_eq_ok written with ⟨value, accepted, rfl⟩
    rw [read_write, accepted]
    exact ⟨rfl, rfl, ascending value⟩

/-! ## Reading what was written -/

theorem readAlternative_name {name : α → String} {known : List α}
    {value : α} (found : known.find? (name · == name value) = some value) :
    readAlternative name known (.text (name value)) = .ok value := by
  change readName name known (name value) = .ok value
  rw [readName, found]

/-- Assigning a field stores what is read for it, and goes on. -/
theorem assign_of {name : String} {read : Reader β} {store : β → δ → δ}
    {datum : Datum} {value : β} (accepted : read datum = .ok value)
    (draft : δ) (rest : List (RecordField δ × Datum)) :
    assign draft ((RecordField.of name read store, datum) :: rest) =
      assign (store value draft) rest := by
  have update :
      (RecordField.of name read store).update datum = .ok (store value) :=
    congrArg (Except.map store) accepted
  rw [assign, update]

end Datum

open Datum

/-! ## Words, operations and dialects -/

theorem ZeroGroup.ofDatum_toDatum (rule : ZeroGroup) :
    ZeroGroup.ofDatum rule.toDatum = .ok rule := by
  apply readAlternative_name
  cases rule <;> decide

theorem Dialect.ofDatum_toDatum (dialect : Dialect) :
    Dialect.ofDatum dialect.toDatum = .ok dialect := by
  change assign Dialect.standard [(.of "zero_group" ZeroGroup.ofDatum _, _)] = _
  rw [assign_of (ZeroGroup.ofDatum_toDatum _)]
  rfl

theorem Operation.ofDatum_toDatum (operation : Operation) :
    Operation.ofDatum operation.toDatum = .ok operation :=
  readAlternative_name operation.ofName?_name

theorem Word.ofDatum_toDatum (word : Word) :
    Word.ofDatum word.toDatum = .ok word :=
  congrArg (Except.map Word.mk) (readUInt16_nat word.value)

theorem Instruction.ofDatum_toDatum (instruction : Instruction) :
    Instruction.ofDatum instruction.toDatum = .ok instruction := by
  change
    (assign {}
      [(.of "addr" readUInt16 _, _), (.of "kk" readUInt8 _, _),
       (.of "mnemonic" Operation.ofDatum _, _), (.of "n" readUInt8 _, _),
       (.of "opcode" Word.ofDatum _, _), (.of "x" readUInt8 _, _),
       (.of "y" readUInt8 _, _)] >>= Draft.finish) = _
  rw [assign_of (readUInt16_nat _), assign_of (readUInt8_nat _),
    assign_of (Operation.ofDatum_toDatum _), assign_of (readUInt8_nat _),
    assign_of (Word.ofDatum_toDatum _), assign_of (readUInt8_nat _),
    assign_of (readUInt8_nat _)]
  rfl

theorem Speed.ofDatum_toDatum (speed : Speed) :
    Speed.ofDatum speed.toDatum = .ok speed := by
  have numerator :
      readUInt32 (.nat speed.numerator) =
        .ok (.ofNat speed.numerator) := by
    rw [readUInt32_eq_ok_iff, toNat_ofNat speed.numerator_le]
  have denominator :
      readUInt32 (.nat speed.denominator) =
        .ok (.ofNat speed.denominator) := by
    rw [readUInt32_eq_ok_iff, toNat_ofNat speed.denominator_le]
  change
    (assign {}
      [(.of "denominator" readUInt32 _, _),
       (.of "numerator" readUInt32 _, _)] >>= Draft.finish) = _
  rw [assign_of denominator, assign_of numerator]
  exact congrArg (Except.mapError ReadError.invalidSpeed)
    (ofRatio_parts speed)

theorem Mode.ofDatum_toDatum (mode : Mode) :
    Mode.ofDatum mode.toDatum = .ok mode := by
  apply readAlternative_name
  cases mode <;> decide

theorem Pace.ofDatum_toDatum (pace : Pace) :
    Pace.ofDatum pace.toDatum = .ok pace := by
  change
    (assign {}
      [(.of "mode" Mode.ofDatum _, _), (.of "speed" Speed.ofDatum _, _)] >>=
        Draft.finish) = _
  rw [assign_of (Mode.ofDatum_toDatum _), assign_of (Speed.ofDatum_toDatum _)]
  rfl

theorem Config.ofDatum_toDatum (config : Config) :
    Config.ofDatum config.toDatum = .ok config := by
  have capture : readBool (.bool config.capture) = .ok config.capture := rfl
  rw [toDatum, Config.ofDatum, readOverlay]
  change
    assign Config.standard
      [(.of "base_cycles_per_pulse" readUInt32 _, _),
       (.of "capture" readBool _, _), (.of "decode" Dialect.ofDatum _, _),
       (.of "history_capacity" readSize _, _),
       (.of "initial_speed" Speed.ofDatum _, _)] = _
  rw [assign_of (readUInt32_nat _), assign_of capture,
    assign_of (Dialect.ofDatum_toDatum _), assign_of (readSize_nat _),
    assign_of (Speed.ofDatum_toDatum _)]
  rfl

/-! ## Ascending forms -/

theorem Dialect.ascending_toDatum (dialect : Dialect) :
    dialect.toDatum.Ascending := by
  apply ascending_map ["zero_group"] rfl (by decide)
  exact ascending_text _

theorem Instruction.ascending_toDatum (instruction : Instruction) :
    instruction.toDatum.Ascending := by
  apply ascending_map ["addr", "kk", "mnemonic", "n", "opcode", "x", "y"] rfl
    (by decide)
  exact ⟨ascending_nat _, ascending_nat _, ascending_text _,
    ascending_nat _, ascending_nat _, ascending_nat _, ascending_nat _⟩

theorem Speed.ascending_toDatum (speed : Speed) :
    speed.toDatum.Ascending := by
  apply ascending_map ["denominator", "numerator"] rfl (by decide)
  exact ⟨ascending_nat _, ascending_nat _⟩

theorem Pace.ascending_toDatum (pace : Pace) :
    pace.toDatum.Ascending := by
  apply ascending_map ["mode", "speed"] rfl (by decide)
  exact ⟨ascending_text _, pace.speed.ascending_toDatum⟩

theorem Config.ascending_toDatum (config : Config) :
    config.toDatum.Ascending := by
  apply ascending_map
    ["base_cycles_per_pulse", "capture", "decode", "history_capacity",
      "initial_speed"] rfl (by decide)
  exact ⟨ascending_nat _, .scalar nofun nofun,
    config.dialect.ascending_toDatum, ascending_nat _,
    config.initialSpeed.ascending_toDatum⟩

/--
All public types survive being written and read: words, operations,
instructions with any fields, rules and dialects, speeds, modes, paces and
configurations.
-/
theorem public_types_round_trip :
    RoundTrips Word.toDatum Word.ofDatum ∧
      RoundTrips Operation.toDatum Operation.ofDatum ∧
      RoundTrips Instruction.toDatum Instruction.ofDatum ∧
      RoundTrips ZeroGroup.toDatum ZeroGroup.ofDatum ∧
      RoundTrips Dialect.toDatum Dialect.ofDatum ∧
      RoundTrips Speed.toDatum Speed.ofDatum ∧
      RoundTrips Mode.toDatum Mode.ofDatum ∧
      RoundTrips Pace.toDatum Pace.ofDatum ∧
      RoundTrips Config.toDatum Config.ofDatum :=
  ⟨.of Word.ofDatum_toDatum fun _ => ascending_nat _,
    .of Operation.ofDatum_toDatum fun _ => ascending_text _,
    .of Instruction.ofDatum_toDatum Instruction.ascending_toDatum,
    .of ZeroGroup.ofDatum_toDatum fun _ => ascending_text _,
    .of Dialect.ofDatum_toDatum Dialect.ascending_toDatum,
    .of Speed.ofDatum_toDatum Speed.ascending_toDatum,
    .of Mode.ofDatum_toDatum fun _ => ascending_text _,
    .of Pace.ofDatum_toDatum Pace.ascending_toDatum,
    .of Config.ofDatum_toDatum Config.ascending_toDatum⟩

/-- A name can be the only key of a map. -/
example :
    (ZeroGroup.ofDatum (.map [("LowNibble", .null)])).map
        ZeroGroup.toDatum =
      .ok (.text "LowNibble") :=
  rfl

/-- A list can end early, and a speed in it can be unreduced. -/
example :
    Config.ofDatum (.list [.nat 7, .list [.nat 4, .nat 2]]) =
      .ok { baseCycles := 7, initialSpeed := .double } := by
  decide +kernel

end Chip8
