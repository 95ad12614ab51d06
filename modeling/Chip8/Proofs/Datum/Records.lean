import Chip8.Proofs.Datum.Reading
import Mathlib.Data.List.Nodup

/-!
# Records in any order and shape

The fields of a record are stored apart from one another, so it does not
matter in which order they are assigned: `assign_perm`.  A map visits them in
the order of its keys and a list in the order of their declaration, and both
come to the declared order, in which a field either has a value supplied for
it or is left alone.

So a list means the map that gives its elements to the first declared fields:
`positional_readOverlay` for records with a default, and
`positional_readRecord` for those all of whose fields are needed.
-/

namespace Chip8.Datum

variable {α β γ δ : Type}

/-! ## Maps with distinct keys -/

/-- What a map has under a key. -/
def supplied (entries : List (String × Datum)) (key : String) :
    Option Datum :=
  entries.lookup key

theorem supplied_cons_of_ne {key name : String} (differs : key ≠ name)
    (value : Datum) (rest : List (String × Datum)) :
    supplied ((name, value) :: rest) key = supplied rest key := by
  have test : (key == name) = false := beq_eq_false_iff_ne.mpr differs
  rw [supplied, List.lookup_cons, test]
  rfl

theorem supplied_cons_self (key : String) (value : Datum)
    (rest : List (String × Datum)) :
    supplied ((key, value) :: rest) key = some value :=
  List.lookup_cons_self

theorem supplied_eq_some_iff {entries : List (String × Datum)}
    (distinct : (entries.map Prod.fst).Nodup) {key : String}
    {value : Datum} :
    supplied entries key = some value ↔ (key, value) ∈ entries := by
  induction entries with
  | nil => exact ⟨nofun, nofun⟩
  | cons head rest ih =>
      obtain ⟨name, other⟩ := head
      rw [List.map_cons, List.nodup_cons] at distinct
      by_cases same : key = name
      · subst same
        have absent : (key, value) ∉ rest := fun member =>
          distinct.1 (List.mem_map.mpr ⟨(key, value), member, rfl⟩)
        rw [supplied_cons_self, List.mem_cons]
        simp [absent, eq_comm]
      · rw [supplied_cons_of_ne same, List.mem_cons, ih distinct.2]
        simp [same]

theorem supplied_perm {first second : List (String × Datum)}
    (distinct : (first.map Prod.fst).Nodup) (perm : first.Perm second) :
    supplied first = supplied second := by
  have distinctSecond := (perm.map Prod.fst).nodup_iff.mp distinct
  funext key
  apply Option.ext
  intro value
  rw [supplied_eq_some_iff distinct, supplied_eq_some_iff distinctSecond,
    perm.mem_iff]

theorem putEntry_perm {key : String} (value : Datum)
    {entries : List (String × Datum)}
    (fresh : key ∉ entries.map Prod.fst) :
    (putEntry key value entries).Perm ((key, value) :: entries) := by
  induction entries with
  | nil => exact .refl _
  | cons head rest ih =>
      obtain ⟨name, other⟩ := head
      rw [List.map_cons, List.mem_cons, not_or] at fresh
      rw [putEntry, if_neg fresh.1]
      split
      · exact .refl _
      · exact ((ih fresh.2).cons _).trans (.swap ..)

/-- A key is placed that is none of those before, nor of those to come. -/
theorem foldl_putEntry_perm {entries sorted : List (String × Datum)}
    (distinct : ((sorted ++ entries).map Prod.fst).Nodup) :
    (entries.foldl (fun sorted entry =>
        putEntry entry.1 entry.2 sorted) sorted).Perm
      (sorted ++ entries) := by
  induction entries generalizing sorted with
  | nil =>
      rw [List.append_nil]
      exact .refl _
  | cons entry rest ih =>
      have moved :
          (sorted ++ entry :: rest).Perm (entry :: (sorted ++ rest)) :=
        List.perm_middle
      have first := (moved.map Prod.fst).nodup_iff.mp distinct
      rw [List.map_cons, List.map_append, List.nodup_cons, List.mem_append,
        not_or] at first
      have placed :
          (putEntry entry.1 entry.2 sorted ++ rest).Perm
            (sorted ++ entry :: rest) :=
        ((putEntry_perm entry.2 first.1.1).append_right rest).trans moved.symm
      exact (ih ((placed.map Prod.fst).nodup_iff.mpr distinct)).trans placed

/-- Entries with distinct keys are only brought into order. -/
theorem exists_ofEntries_eq {entries : List (String × Datum)}
    (distinct : (entries.map Prod.fst).Nodup) :
    ∃ sorted, ofEntries entries = .map sorted ∧ sorted.Perm entries :=
  ⟨_, rfl, foldl_putEntry_perm distinct⟩

/-! ## Order of assignment -/

/-- Two fields that store their values apart from one another. -/
def Independent (first second : RecordField δ) : Prop :=
  ∀ left right change other, first.update left = .ok change →
    second.update right = .ok other →
      ∀ draft, change (other draft) = other (change draft)

theorem Independent.symm {first second : RecordField δ}
    (independent : Independent first second) : Independent second first :=
  fun left right change other accepted acceptedOther draft =>
    (independent right left other change acceptedOther accepted draft).symm

theorem independent_of {name otherName : String} {read : Reader β}
    {readOther : Reader γ} {store : β → δ → δ} {storeOther : γ → δ → δ}
    (apart : ∀ value other draft,
      store value (storeOther other draft) =
        storeOther other (store value draft)) :
    Independent (.of name read store) (.of otherName readOther storeOther) := by
  intro left right change other accepted acceptedOther draft
  rcases exists_of_map_eq_ok accepted with ⟨value, -, rfl⟩
  rcases exists_of_map_eq_ok acceptedOther with ⟨otherValue, -, rfl⟩
  exact apart value otherValue draft

theorem assign_cons_eq_ok_iff {draft final : δ}
    {pair : RecordField δ × Datum} {rest : List (RecordField δ × Datum)} :
    assign draft (pair :: rest) = .ok final ↔
      ∃ change, pair.1.update pair.2 = .ok change ∧
        assign (change draft) rest = .ok final := by
  obtain ⟨field, value⟩ := pair
  rw [assign]
  cases field.update value with
  | ok change => simp
  | error error => simp

/-- A field can be read from a datum. -/
def Accepts (field : RecordField δ) (datum : Datum) : Prop :=
  ∃ change, field.update datum = .ok change

/-- A draft can be completed exactly if every value is acceptable. -/
theorem exists_assign_iff {draft : δ} {pairs : List (RecordField δ × Datum)} :
    (∃ final, assign draft pairs = .ok final) ↔
      ∀ pair ∈ pairs, Accepts pair.1 pair.2 := by
  induction pairs generalizing draft with
  | nil => simp
  | cons pair rest ih =>
      simp only [assign_cons_eq_ok_iff, List.forall_mem_cons]
      constructor
      · rintro ⟨final, change, accepted, later⟩
        exact ⟨⟨change, accepted⟩, ih.mp ⟨final, later⟩⟩
      · rintro ⟨⟨change, accepted⟩, later⟩
        rcases ih.mpr later with ⟨final, assigned⟩
        exact ⟨final, change, accepted, assigned⟩

/--
Independent fields can be assigned in any order: where two are swapped, both
drafts are the same before the rest is assigned.
-/
theorem assign_perm {pairs others : List (RecordField δ × Datum)}
    (perm : pairs.Perm others)
    (independent : pairs.Pairwise fun first second =>
      Independent first.1 second.1)
    {draft final : δ} (assigned : assign draft pairs = .ok final) :
    assign draft others = .ok final := by
  induction perm generalizing draft with
  | nil => exact assigned
  | cons pair perm ih =>
      rcases assign_cons_eq_ok_iff.mp assigned with
        ⟨change, accepted, later⟩
      exact assign_cons_eq_ok_iff.mpr
        ⟨change, accepted, ih independent.of_cons later⟩
  | swap first second rest =>
      rcases assign_cons_eq_ok_iff.mp assigned with
        ⟨change, accepted, later⟩
      rcases assign_cons_eq_ok_iff.mp later with ⟨other, acceptedOther, last⟩
      have apart : Independent second.1 first.1 :=
        List.rel_of_pairwise_cons independent List.mem_cons_self
      rw [← apart _ _ _ _ accepted acceptedOther] at last
      exact assign_cons_eq_ok_iff.mpr ⟨other, acceptedOther,
        assign_cons_eq_ok_iff.mpr ⟨change, accepted, last⟩⟩
  | trans perm _ first second =>
      exact second (perm.pairwise independent .symm)
        (first independent assigned)

/-! ## The declared order -/

/-- Fields that are told apart by their names and stored apart. -/
structure Apart (fields : List (RecordField δ)) : Prop where
  names : (fields.map (·.name)).Nodup
  independent : fields.Pairwise Independent

/-- The fields for which a value is supplied, in the order of declaration. -/
def declared (fields : List (RecordField δ))
    (supply : String → Option Datum) : List (RecordField δ × Datum) :=
  fields.filterMap fun field => (supply field.name).map (field, ·)

section Declared

theorem declared_cons_none {field : RecordField δ}
    {rest : List (RecordField δ)} {supply : String → Option Datum}
    (absent : supply field.name = none) :
    declared (field :: rest) supply = declared rest supply := by
  rw [declared, List.filterMap_cons, absent]
  rfl

theorem declared_cons_some {field : RecordField δ}
    {rest : List (RecordField δ)} {supply : String → Option Datum}
    {datum : Datum} (found : supply field.name = some datum) :
    declared (field :: rest) supply =
      (field, datum) :: declared rest supply := by
  rw [declared, List.filterMap_cons, found]
  rfl

variable {fields : List (RecordField δ)} (apart : Apart fields)
  {entries : List (String × Datum)}

theorem mem_declared_iff {supply : String → Option Datum}
    {field : RecordField δ} {value : Datum} :
    (field, value) ∈ declared fields supply ↔
      field ∈ fields ∧ supply field.name = some value := by
  constructor
  · intro member
    rcases List.mem_filterMap.mp member with ⟨other, here, paired⟩
    rcases Option.map_eq_some_iff.mp paired with ⟨_, found, pair⟩
    cases pair
    exact ⟨here, found⟩
  · rintro ⟨here, found⟩
    exact List.mem_filterMap.mpr ⟨field, here, by rw [found]; rfl⟩

theorem pairwise_declared (independent : fields.Pairwise Independent)
    (supply : String → Option Datum) :
    (declared fields supply).Pairwise fun first second =>
      Independent first.1 second.1 := by
  refine independent.filterMap _ ?_
  rintro first second independent ⟨_, _⟩ here ⟨_, _⟩ there
  rcases Option.map_eq_some_iff.mp here with ⟨_, _, pair⟩
  rcases Option.map_eq_some_iff.mp there with ⟨_, _, otherPair⟩
  cases pair
  cases otherPair
  exact independent

theorem length_declared {supply : String → Option Datum}
    (all : ∀ field ∈ fields, ∃ datum, supply field.name = some datum) :
    (declared fields supply).length = fields.length := by
  rw [declared, List.filterMap_length_eq_length]
  intro field here
  rcases all field here with ⟨datum, found⟩
  rw [found]
  rfl

theorem name_of_find? {key : String} {field : RecordField δ}
    (found : fields.find? (·.name == key) = some field) :
    field.name = key := by
  simpa using List.find?_some found

include apart

theorem find?_name {field : RecordField δ} (here : field ∈ fields) :
    fields.find? (·.name == field.name) = some field := by
  cases found : fields.find? (·.name == field.name) with
  | none =>
      have other := List.find?_eq_none.mp found field here
      exact absurd BEq.rfl other
  | some other =>
      have declared := List.mem_of_find?_eq_some found
      rw [List.inj_on_of_nodup_map apart.names declared here
        (name_of_find? found)]

theorem mem_named_iff {field : RecordField δ} {value : Datum} :
    (field, value) ∈ named fields entries ↔
      field ∈ fields ∧ (field.name, value) ∈ entries := by
  constructor
  · intro member
    cases offers_of_mem_named member with
    | entry declared here => exact ⟨declared, here⟩
  · rintro ⟨declared, here⟩
    refine List.mem_filterMap.mpr ⟨_, here, ?_⟩
    rw [find?_name apart declared]
    rfl

/--
A map comes to the declared order of the fields that it names: neither list has
a pair twice, so it is enough that they have the same.
-/
theorem named_perm (distinct : (entries.map Prod.fst).Nodup) :
    (named fields entries).Perm (declared fields (supplied entries)) := by
  apply (List.perm_ext_iff_of_nodup ?_ ?_).mpr
  · rintro ⟨field, value⟩
    rw [mem_named_iff apart, mem_declared_iff, supplied_eq_some_iff distinct]
  · refine distinct.of_map.filterMap ?_
    rintro ⟨name, value⟩ ⟨other, otherValue⟩ pair here there
    rcases Option.map_eq_some_iff.mp here with ⟨field, found, rfl⟩
    rcases Option.map_eq_some_iff.mp there with ⟨_, foundOther, pair⟩
    cases pair
    have same : name = other :=
      (name_of_find? found).symm.trans (name_of_find? foundOther)
    rw [same]
  · refine apart.names.of_map.filterMap ?_
    intro field other pair here there
    rcases Option.map_eq_some_iff.mp here with ⟨_, -, rfl⟩
    rcases Option.map_eq_some_iff.mp there with ⟨_, -, pair⟩
    exact (congrArg Prod.fst pair).symm

theorem assign_named_eq_ok_iff (distinct : (entries.map Prod.fst).Nodup)
    {draft final : δ} :
    assign draft (named fields entries) = .ok final ↔
      assign draft (declared fields (supplied entries)) = .ok final := by
  have perm := named_perm apart distinct
  have independent := pairwise_declared apart.independent (supplied entries)
  constructor
  · exact assign_perm perm (perm.symm.pairwise independent .symm)
  · exact assign_perm perm.symm independent

/--
The elements of a list are supplied to the first declared fields.  Only the
distinct names of the fields matter here.
-/
theorem declared_zip (items : List Datum) :
    declared fields (supplied ((fields.map (·.name)).zip items)) =
      fields.zip items := by
  have names := apart.names
  clear apart
  induction fields generalizing items with
  | nil => rfl
  | cons field rest ih =>
      rw [List.map_cons, List.nodup_cons] at names
      cases items with
      | nil => exact List.filterMap_eq_nil_iff.mpr fun _ _ => rfl
      | cons item items =>
          have later :
              declared rest
                  (supplied (((field :: rest).map (·.name)).zip
                    (item :: items))) =
                declared rest (supplied ((rest.map (·.name)).zip items)) := by
            apply List.filterMap_congr
            intro other here
            have differs : other.name ≠ field.name := fun same =>
              names.1 (same ▸ List.mem_map_of_mem here)
            rw [List.map_cons, List.zip_cons_cons, supplied_cons_of_ne differs]
          rw [ih items names.2] at later
          exact (declared_cons_some (supplied_cons_self ..)).trans
            (congrArg ((field, item) :: ·) later)

end Declared

/-! ## What a field comes to -/

/-- The value of a field with a default: what is read for it, if anything. -/
inductive Chosen (read : Reader β) (default : β) :
    Option Datum → β → Prop where
  | kept : Chosen read default none default
  | replaced {datum : Datum} {value : β} (accepted : read datum = .ok value) :
      Chosen read default (some datum) value

/-- The value of a field without a default: something is read for it. -/
def Given (read : Reader β) (supply : Option Datum) (value : β) : Prop :=
  ∃ datum, supply = some datum ∧ read datum = .ok value

theorem Given.exists_eq_some {read : Reader β} {supply : Option Datum}
    {value : β} (given : Given read supply value) :
    ∃ datum, supply = some datum :=
  given.imp fun _ => And.left

section Fields

variable {name : String} {read : Reader β} {draft final : δ}
  {rest : List (RecordField δ)} {supply : String → Option Datum}

/-- The first declared field is decided, and then the others. -/
theorem assign_declared_of (store : β → δ → δ) (default : β)
    (unchanged : store default draft = draft) :
    assign draft (declared (.of name read store :: rest) supply) =
        .ok final ↔
      ∃ value, Chosen read default (supply name) value ∧
        assign (store value draft) (declared rest supply) = .ok final := by
  cases found : supply name with
  | none =>
      rw [declared_cons_none found]
      constructor
      · intro assigned
        rw [← unchanged] at assigned
        exact ⟨default, .kept, assigned⟩
      · rintro ⟨value, chosen, assigned⟩
        cases chosen
        rwa [unchanged] at assigned
  | some datum =>
      rw [declared_cons_some found, assign_cons_eq_ok_iff]
      constructor
      · rintro ⟨change, updated, assigned⟩
        rcases exists_of_map_eq_ok updated with ⟨value, accepted, rfl⟩
        exact ⟨value, .replaced accepted, assigned⟩
      · rintro ⟨value, chosen, assigned⟩
        cases chosen with
        | replaced accepted =>
            have updated := congrArg (Except.map store) accepted
            exact ⟨store value, updated, assigned⟩

/-- A field of a draft is decided; nothing is stored if nothing is supplied. -/
theorem assign_declared_some (store : Option β → δ → δ)
    (unset : store none draft = draft) :
    assign draft
        (declared (.of name read (fun value => store (some value)) :: rest)
          supply) = .ok final ↔
      ∃ value,
        Chosen (fun datum => (read datum).map some) none (supply name)
            value ∧
          assign (store value draft) (declared rest supply) = .ok final := by
  have same :
      RecordField.of name read (fun value => store (some value)) =
        .of name (fun datum => (read datum).map some) store := by
    rw [RecordField.of, RecordField.of]
    congr 1
    funext datum
    cases read datum with
    | ok value => rfl
    | error error => rfl
  rw [same, assign_declared_of store none unset]

/-- A field is stored if a value is given for it. -/
theorem assign_declared_given {store : β → δ → δ} {value : β}
    (given : Given read (supply name) value)
    (assigned : assign (store value draft) (declared rest supply) =
      .ok final) :
    assign draft (declared (.of name read store :: rest) supply) =
      .ok final := by
  rcases given with ⟨datum, found, accepted⟩
  rw [declared_cons_some found]
  exact assign_cons_eq_ok_iff.mpr
    ⟨store value, congrArg (Except.map store) accepted, assigned⟩

theorem chosen_some_iff {supply : Option Datum} {value : β} :
    Chosen (fun datum => (read datum).map some) none supply (some value) ↔
      Given read supply value := by
  constructor
  · intro chosen
    cases chosen with
    | replaced stored =>
        rcases exists_of_map_eq_ok stored with ⟨other, accepted, same⟩
        cases same
        exact ⟨_, rfl, accepted⟩
  · rintro ⟨datum, rfl, accepted⟩
    exact .replaced (congrArg (Except.map some) accepted)

end Fields

/-! ## Lists and maps -/

/-- A list is read as the map of its elements under the first of some keys. -/
structure Positional (keys : List String) (read : Reader α) : Prop where
  agrees (items : List Datum) (fits : items.length ≤ keys.length) (value : α) :
    read (.list items) = .ok value ↔
      read (ofEntries (keys.zip items)) = .ok value
  tooLong (items : List Datum) (longer : keys.length < items.length)
    (value : α) : read (.list items) ≠ .ok value

section Lists

variable {fields : List (RecordField δ)} {record : String}

theorem checkLength_eq_ok_iff {items : List Datum} {result : Unit} :
    checkLength fields items = .ok result ↔
      items.length ≤ fields.length := by
  rw [checkLength]
  split
  next longer => simp [longer]
  next fits => simpa using fits

theorem readOverlay_list_eq_ok_iff {default value : δ} {items : List Datum} :
    readOverlay record fields default (.list items) = .ok value ↔
      assign default (fields.zip items) = .ok value ∧
        items.length ≤ fields.length := by
  constructor
  · intro read
    rcases exists_of_bind_eq_ok read with ⟨draft, assigned, read⟩
    rcases exists_of_bind_eq_ok read with ⟨_, checked, same⟩
    cases same
    exact ⟨assigned, checkLength_eq_ok_iff.mp checked⟩
  · rintro ⟨assigned, fits⟩
    have checked : checkLength fields items = .ok () :=
      checkLength_eq_ok_iff.mpr fits
    change (assign default (fields.zip items) >>= fun value =>
      checkLength fields items >>= fun _ => .ok value) = _
    rw [assigned]
    change (checkLength fields items >>= fun _ => .ok value) = _
    rw [checked]
    rfl

theorem readRecord_map_eq_ok_iff {empty : δ}
    {finish : δ → Except ReadError α} {value : α}
    {entries : List (String × Datum)} :
    readRecord record fields empty finish (.map entries) = .ok value ↔
      ∃ draft, assign empty (named fields entries) = .ok draft ∧
        finish draft = .ok value := by
  constructor
  · exact exists_of_bind_eq_ok
  · rintro ⟨draft, assigned, finished⟩
    change (assign empty (named fields entries) >>= finish) = _
    rw [assigned]
    exact finished

theorem readRecord_list_eq_ok_iff {empty : δ}
    {finish : δ → Except ReadError α} {value : α} {items : List Datum} :
    readRecord record fields empty finish (.list items) = .ok value ↔
      ∃ draft, assign empty (fields.zip items) = .ok draft ∧
        items.length = fields.length ∧ finish draft = .ok value := by
  rw [readRecord]
  constructor
  · intro read
    rcases exists_of_bind_eq_ok read with ⟨draft, assigned, read⟩
    split at read
    next short => cases read
    next enough =>
      rcases exists_of_bind_eq_ok read with ⟨_, checked, finished⟩
      have fits := checkLength_eq_ok_iff.mp checked
      exact ⟨draft, assigned, by omega, finished⟩
  · rintro ⟨draft, assigned, same, finished⟩
    have checked : checkLength fields items = .ok () :=
      checkLength_eq_ok_iff.mpr (Nat.le_of_eq same)
    rw [assigned]
    dsimp only [bind, Except.bind]
    rw [if_neg (by omega), checked]
    exact finished

variable (apart : Apart fields)
include apart

/-- A record with a default needs no key, and every value to be acceptable. -/
theorem exists_readOverlay_map_iff {default : δ}
    {entries : List (String × Datum)}
    (distinct : (entries.map Prod.fst).Nodup) :
    (∃ value, readOverlay record fields default (.map entries) = .ok value) ↔
      ∀ field ∈ fields, ∀ datum,
        supplied entries field.name = some datum → Accepts field datum := by
  refine exists_assign_iff.trans ?_
  constructor
  · intro accepted field declared datum found
    have here := (supplied_eq_some_iff distinct).mp found
    exact accepted _ ((mem_named_iff apart).mpr ⟨declared, here⟩)
  · rintro accepted ⟨field, datum⟩ member
    rcases (mem_named_iff apart).mp member with ⟨declared, here⟩
    exact accepted field declared datum
      ((supplied_eq_some_iff distinct).mpr here)

/-- Elements for the first declared fields, as a list and as a map. -/
theorem exists_ofEntries_zip (items : List Datum) :
    ∃ entries, ofEntries ((fields.map (·.name)).zip items) = .map entries ∧
      (entries.map Prod.fst).Nodup ∧
      declared fields (supplied entries) = fields.zip items := by
  have distinct :
      (((fields.map (·.name)).zip items).map Prod.fst).Nodup := by
    rw [List.zip_eq_zip_take_min, List.map_fst_zip]
    · exact apart.names.sublist (List.take_sublist _ _)
    · simp
  rcases exists_ofEntries_eq distinct with ⟨entries, made, perm⟩
  have sorted := (perm.map Prod.fst).nodup_iff.mpr distinct
  refine ⟨entries, made, sorted, ?_⟩
  rw [supplied_perm sorted perm, declared_zip apart]

theorem positional_readOverlay {default : δ} :
    Positional (fields.map (·.name)) (readOverlay record fields default) where
  agrees items fits value := by
    rcases exists_ofEntries_zip apart items with
      ⟨entries, made, distinct, supplied⟩
    rw [List.length_map] at fits
    rw [made, readOverlay_list_eq_ok_iff, and_iff_left fits, ← supplied]
    exact (assign_named_eq_ok_iff apart distinct).symm
  tooLong items longer value read := by
    rw [List.length_map] at longer
    have fits := (readOverlay_list_eq_ok_iff.mp read).2
    omega

/-- A record is read from a map if its complete draft is. -/
theorem readRecord_map_eq_ok_iff_complete {empty : δ}
    {finish : δ → Except ReadError α} {complete : α → δ}
    (finish_eq_ok_iff : ∀ {draft value},
      finish draft = .ok value ↔ draft = complete value)
    {value : α} {entries : List (String × Datum)}
    (distinct : (entries.map Prod.fst).Nodup) :
    readRecord record fields empty finish (.map entries) = .ok value ↔
      assign empty (declared fields (supplied entries)) =
        .ok (complete value) := by
  simp only [readRecord_map_eq_ok_iff, assign_named_eq_ok_iff apart distinct,
    finish_eq_ok_iff, exists_eq_right]

theorem positional_readRecord {empty : δ}
    {finish : δ → Except ReadError α}
    (needed : ∀ entries, (entries.map Prod.fst).Nodup → ∀ value,
      readRecord record fields empty finish (.map entries) = .ok value →
        ∀ field ∈ fields, ∃ datum, supplied entries field.name = some datum) :
    Positional (fields.map (·.name))
      (readRecord record fields empty finish) where
  agrees items fits value := by
    rcases exists_ofEntries_zip apart items with
      ⟨entries, made, distinct, supplied⟩
    rw [List.length_map] at fits
    rw [made, readRecord_list_eq_ok_iff, ← supplied]
    constructor
    · rintro ⟨draft, assigned, -, finished⟩
      have named := (assign_named_eq_ok_iff apart distinct).mpr assigned
      exact readRecord_map_eq_ok_iff.mpr ⟨draft, named, finished⟩
    · intro read
      have all := length_declared (needed entries distinct value read)
      rcases readRecord_map_eq_ok_iff.mp read with ⟨draft, named, finished⟩
      have assigned := (assign_named_eq_ok_iff apart distinct).mp named
      rw [supplied, List.length_zip, Nat.min_eq_right fits] at all
      exact ⟨draft, assigned, all, finished⟩
  tooLong items longer value read := by
    rw [List.length_map] at longer
    rcases readRecord_list_eq_ok_iff.mp read with ⟨_, _, fits, _⟩
    omega

end Lists

end Chip8.Datum
