import Chip8.Datum.Reader

/-!
# What readers accept

A reader of numbers accepts the written numbers below its limit and nothing
else.  A reader of records takes its values from where the datum offers them:
under their names in a map, or at their places in a list.

What holds of the draft from which a record is read, and is kept when an
offered value is stored, holds of the record: `readRecord_induction` and
`readOverlay_induction`.
-/

namespace Chip8.Datum

variable {α β ε : Type}

/-! ## Results -/

/-- A computation that goes on after another needs what that one gives. -/
theorem exists_of_bind_eq_ok {first : Except ReadError α}
    {next : α → Except ReadError β} {result : β}
    (ok : first >>= next = .ok result) :
    ∃ value, first = .ok value ∧ next value = .ok result := by
  cases first with
  | ok value => exact ⟨value, rfl, ok⟩
  | error error => cases ok

theorem exists_of_map_eq_ok {first : Except ε α} {change : α → β}
    {result : β} (ok : first.map change = .ok result) :
    ∃ value, first = .ok value ∧ change value = result := by
  cases first with
  | ok value =>
      cases ok
      exact ⟨value, rfl, rfl⟩
  | error error => cases ok

theorem eq_ok_of_mapError_eq_ok {first : Except ε α}
    {change : ε → ReadError} {result : α}
    (ok : first.mapError change = .ok result) : first = .ok result := by
  cases first with
  | ok value =>
      cases ok
      rfl
  | error error => cases ok

/-! ## Scalars -/

theorem readBelow_eq_ok_iff {limit : Nat} {expected : String}
    {datum : Datum} {value : Nat} :
    readBelow limit expected datum = .ok value ↔
      datum = .nat value ∧ value < limit := by
  constructor
  · intro read
    cases datum with
    | int number =>
        by_cases inside : 0 ≤ number ∧ number < limit
        · rw [readBelow, if_pos inside] at read
          cases read
          have same := Int.toNat_of_nonneg inside.1
          exact ⟨congrArg Datum.int same.symm, by omega⟩
        · rw [readBelow, if_neg inside] at read
          cases read
    | null | bool | real | text | list | map => cases read
  · rintro ⟨rfl, below⟩
    have inside : (0 : Int) ≤ value ∧ (value : Int) < limit :=
      ⟨Int.natCast_nonneg value, Int.ofNat_lt.mpr below⟩
    rw [nat, readBelow, if_pos inside]
    rfl

/-- Numbers of a type are read below the size of the type. -/
theorem map_readBelow_eq_ok_iff {ofNat : Nat → β}
    {toNat : β → Nat} {limit : Nat}
    (ofNat_toNat : ∀ value, ofNat (toNat value) = value)
    (toNat_ofNat : ∀ number < limit, toNat (ofNat number) = number)
    (toNat_lt : ∀ value, toNat value < limit) {expected : String}
    {datum : Datum} {value : β} :
    (readBelow limit expected datum).map ofNat = .ok value ↔
      datum = .nat (toNat value) := by
  constructor
  · intro read
    rcases exists_of_map_eq_ok read with ⟨number, accepted, rfl⟩
    rcases readBelow_eq_ok_iff.mp accepted with ⟨written, below⟩
    rw [written, toNat_ofNat number below]
  · rintro rfl
    rw [readBelow_eq_ok_iff.mpr ⟨rfl, toNat_lt value⟩, Except.map,
      ofNat_toNat]

theorem readUInt8_eq_ok_iff {datum : Datum} {value : UInt8} :
    readUInt8 datum = .ok value ↔ datum = .nat value.toNat :=
  map_readBelow_eq_ok_iff (fun _ => UInt8.ofNat_toNat)
    (fun _ below => UInt8.toNat_ofNat_of_lt' below) UInt8.toNat_lt_size

theorem readUInt16_eq_ok_iff {datum : Datum} {value : UInt16} :
    readUInt16 datum = .ok value ↔ datum = .nat value.toNat :=
  map_readBelow_eq_ok_iff (fun _ => UInt16.ofNat_toNat)
    (fun _ below => UInt16.toNat_ofNat_of_lt' below) UInt16.toNat_lt_size

theorem readUInt32_eq_ok_iff {datum : Datum} {value : UInt32} :
    readUInt32 datum = .ok value ↔ datum = .nat value.toNat :=
  map_readBelow_eq_ok_iff (fun _ => UInt32.ofNat_toNat)
    (fun _ below => UInt32.toNat_ofNat_of_lt' below) UInt32.toNat_lt_size

theorem readSize_eq_ok_iff {datum : Datum} {value : UInt64} :
    readSize datum = .ok value ↔ datum = .nat value.toNat :=
  map_readBelow_eq_ok_iff (fun _ => UInt64.ofNat_toNat)
    (fun _ below => UInt64.toNat_ofNat_of_lt' below) UInt64.toNat_lt_size

/-! ### Numbers as they are written -/

theorem readUInt8_nat (value : UInt8) :
    readUInt8 (.nat value.toNat) = .ok value :=
  readUInt8_eq_ok_iff.mpr rfl

theorem readUInt16_nat (value : UInt16) :
    readUInt16 (.nat value.toNat) = .ok value :=
  readUInt16_eq_ok_iff.mpr rfl

theorem readUInt32_nat (value : UInt32) :
    readUInt32 (.nat value.toNat) = .ok value :=
  readUInt32_eq_ok_iff.mpr rfl

theorem readSize_nat (value : UInt64) :
    readSize (.nat value.toNat) = .ok value :=
  readSize_eq_ok_iff.mpr rfl

/-! ## Records -/

section Records

variable {δ : Type} {fields : List (RecordField δ)} {datum : Datum}

/-- A datum has a value for a field, by its name or by its place. -/
inductive Offers (fields : List (RecordField δ)) :
    Datum → RecordField δ → Datum → Prop where
  | entry {entries : List (String × Datum)} {field : RecordField δ}
      {value : Datum} (declared : field ∈ fields)
      (here : (field.name, value) ∈ entries) :
      Offers fields (.map entries) field value
  | item {items : List Datum} {place : Nat} {field : RecordField δ}
      {value : Datum} (declared : fields[place]? = some field)
      (here : items[place]? = some value) :
      Offers fields (.list items) field value

theorem Offers.declared {field : RecordField δ} {value : Datum}
    (offers : Offers fields datum field value) : field ∈ fields := by
  cases offers with
  | entry declared => exact declared
  | item declared => exact List.mem_of_getElem? declared

/-- A datum has a value for the field of a name. -/
def Supplies (fields : List (RecordField δ)) (datum : Datum)
    (name : String) (value : Datum) : Prop :=
  ∃ field, field.name = name ∧ Offers fields datum field value

theorem offers_of_mem_named {entries : List (String × Datum)}
    {field : RecordField δ} {value : Datum}
    (assigned : (field, value) ∈ named fields entries) :
    Offers fields (.map entries) field value := by
  rcases List.mem_filterMap.mp assigned with ⟨⟨name, other⟩, here, paired⟩
  rcases Option.map_eq_some_iff.mp paired with ⟨other', found, pair⟩
  cases pair
  have chosen := List.find?_some found
  have same : field.name = name := eq_of_beq chosen
  rw [← same] at here
  exact .entry (List.mem_of_find?_eq_some found) here

theorem offers_of_mem_zip {items : List Datum} {field : RecordField δ}
    {value : Datum} (assigned : (field, value) ∈ fields.zip items) :
    Offers fields (.list items) field value := by
  rcases List.getElem?_of_mem assigned with ⟨place, here⟩
  rcases List.getElem?_zip_eq_some.mp here with ⟨declared, value⟩
  exact .item declared value

theorem assign_induction {holds : δ → Prop}
    {pairs : List (RecordField δ × Datum)} {draft final : δ}
    (read : assign draft pairs = .ok final) (start : holds draft)
    (keeps : ∀ pair ∈ pairs, ∀ change, pair.1.update pair.2 = .ok change →
      ∀ draft, holds draft → holds (change draft)) :
    holds final := by
  induction pairs generalizing draft with
  | nil =>
      cases read
      exact start
  | cons pair rest ih =>
      cases update : pair.1.update pair.2 with
      | error error =>
          rw [assign, update] at read
          cases read
      | ok change =>
          rw [assign, update] at read
          apply ih read
          · exact keeps pair (List.mem_cons_self ..) change update draft start
          · intro later member
            exact keeps later (List.mem_cons_of_mem _ member)

/-- A datum of a record with a default changes the default by its values. -/
theorem readOverlay_induction {holds : δ → Prop} {record : String}
    {default final : δ}
    (read : readOverlay record fields default datum = .ok final)
    (start : holds default)
    (keeps : ∀ field value, Offers fields datum field value →
      ∀ change, field.update value = .ok change →
        ∀ draft, holds draft → holds (change draft)) :
    holds final := by
  cases datum with
  | map entries =>
      apply assign_induction read start
      rintro ⟨field, value⟩ assigned
      exact keeps field value (offers_of_mem_named assigned)
  | list items =>
      rcases exists_of_bind_eq_ok read with ⟨draft, assigned, rest⟩
      rcases exists_of_bind_eq_ok rest with ⟨checked, _, same⟩
      cases same
      apply assign_induction assigned start
      rintro ⟨field, value⟩ member
      exact keeps field value (offers_of_mem_zip member)
  | null | bool | int | real | text => cases read

/-- A datum of a record makes a draft of its values, which is finished. -/
theorem readRecord_induction {holds : δ → Prop} {record : String}
    {empty : δ} {finish : δ → Except ReadError α} {value : α}
    (read : readRecord record fields empty finish datum = .ok value)
    (start : holds empty)
    (keeps : ∀ field value, Offers fields datum field value →
      ∀ change, field.update value = .ok change →
        ∀ draft, holds draft → holds (change draft)) :
    ∃ draft, holds draft ∧ finish draft = .ok value := by
  cases datum with
  | map entries =>
      rcases exists_of_bind_eq_ok read with ⟨draft, assigned, finished⟩
      refine ⟨draft, ?_, finished⟩
      apply assign_induction assigned start
      rintro ⟨field, value⟩ member
      exact keeps field value (offers_of_mem_named member)
  | list items =>
      rcases exists_of_bind_eq_ok read with ⟨draft, assigned, rest⟩
      by_cases short : items.length < fields.length
      · rw [if_pos short] at rest
        cases rest
      · rw [if_neg short] at rest
        rcases exists_of_bind_eq_ok rest with ⟨checked, _, finished⟩
        refine ⟨draft, ?_, finished⟩
        apply assign_induction assigned start
        rintro ⟨field, value⟩ member
        exact keeps field value (offers_of_mem_zip member)
  | null | bool | int | real | text => cases read

theorem required_eq_ok_iff {name : String} {field : Option β} {value : β} :
    required name field = .ok value ↔ field = some value := by
  cases field with
  | none => exact ⟨nofun, nofun⟩
  | some other => simp [required]

end Records

end Chip8.Datum
