import Chip8.Datum.Forms
import Chip8.Proofs.Datum.Records

/-!
# Partial and positional forms

A dialect and a configuration can be given in part: what is left out keeps its
standard value, and what nobody asked for is ignored.  An instruction, a pace
and a speed need all their fields.  In either case a list means the map that
gives its elements to the first fields.

For each type one relation says what the value of every field is, by what is
supplied under its name alone.  It holds between a map and exactly the value
that is read from it, in whatever order the map visits its keys.
-/

namespace Chip8

open Datum

variable {supply : String → Option Datum} {entries : List (String × Datum)}

/-! ## Dialects -/

/-- The standard dialect with what is supplied put in its place. -/
structure Dialect.Overlaid (supply : String → Option Datum)
    (dialect : Dialect) : Prop where
  zeroGroup :
    Chosen ZeroGroup.ofDatum Dialect.standard.zeroGroup (supply "zero_group")
      dialect.zeroGroup

namespace Dialect

theorem apart_fields : Apart fields where
  names := by decide
  independent := List.pairwise_singleton ..

theorem assign_declared_eq_ok_iff {dialect : Dialect} :
    assign .standard (declared fields supply) = .ok dialect ↔
      dialect.Overlaid supply := by
  constructor
  · intro assigned
    obtain ⟨_, zeroGroup, assigned⟩ :=
      (assign_declared_of _ standard.zeroGroup rfl).mp assigned
    cases assigned
    exact ⟨zeroGroup⟩
  · intro overlaid
    exact (assign_declared_of _ standard.zeroGroup rfl).mpr
      ⟨_, overlaid.zeroGroup, rfl⟩

theorem ofDatum_map_eq_ok_iff (distinct : (entries.map Prod.fst).Nodup)
    {dialect : Dialect} :
    Dialect.ofDatum (.map entries) = .ok dialect ↔
      dialect.Overlaid (supplied entries) :=
  (assign_named_eq_ok_iff apart_fields distinct).trans
    assign_declared_eq_ok_iff

end Dialect

/-! ## Configurations -/

/-- The standard configuration with what is supplied put in its place. -/
structure Config.Overlaid (supply : String → Option Datum)
    (config : Config) : Prop where
  baseCycles :
    Chosen readUInt32 Config.standard.baseCycles
      (supply "base_cycles_per_pulse") config.baseCycles
  initialSpeed :
    Chosen Speed.ofDatum Config.standard.initialSpeed
      (supply "initial_speed") config.initialSpeed
  capture :
    Chosen readBool Config.standard.capture (supply "capture") config.capture
  historyCapacity :
    Chosen readSize Config.standard.historyCapacity
      (supply "history_capacity") config.historyCapacity
  dialect :
    Chosen Dialect.ofDatum Config.standard.dialect (supply "decode")
      config.dialect

namespace Config

theorem apart_fields : Apart fields where
  names := by decide
  independent := by
    simp only [fields, List.pairwise_cons, List.forall_mem_cons,
      List.not_mem_nil, false_imp_iff, implies_true, and_true,
      List.Pairwise.nil]
    and_intros
    all_goals exact independent_of fun _ _ _ => rfl

theorem assign_declared_eq_ok_iff {config : Config} :
    assign .standard (declared fields supply) = .ok config ↔
      config.Overlaid supply := by
  constructor
  · intro assigned
    obtain ⟨_, baseCycles, assigned⟩ :=
      (assign_declared_of _ standard.baseCycles rfl).mp assigned
    obtain ⟨_, initialSpeed, assigned⟩ :=
      (assign_declared_of _ standard.initialSpeed rfl).mp assigned
    obtain ⟨_, capture, assigned⟩ :=
      (assign_declared_of _ standard.capture rfl).mp assigned
    obtain ⟨_, historyCapacity, assigned⟩ :=
      (assign_declared_of _ standard.historyCapacity rfl).mp assigned
    obtain ⟨_, dialect, assigned⟩ :=
      (assign_declared_of _ standard.dialect rfl).mp assigned
    cases assigned
    exact ⟨baseCycles, initialSpeed, capture, historyCapacity, dialect⟩
  · intro overlaid
    refine (assign_declared_of _ standard.baseCycles rfl).mpr
      ⟨_, overlaid.baseCycles, ?_⟩
    refine (assign_declared_of _ standard.initialSpeed rfl).mpr
      ⟨_, overlaid.initialSpeed, ?_⟩
    refine (assign_declared_of _ standard.capture rfl).mpr
      ⟨_, overlaid.capture, ?_⟩
    refine (assign_declared_of _ standard.historyCapacity rfl).mpr
      ⟨_, overlaid.historyCapacity, ?_⟩
    exact (assign_declared_of _ standard.dialect rfl).mpr
      ⟨_, overlaid.dialect, rfl⟩

theorem ofDatum_map_eq_ok_iff (distinct : (entries.map Prod.fst).Nodup)
    {config : Config} :
    Config.ofDatum (.map entries) = .ok config ↔
      config.Overlaid (supplied entries) :=
  (assign_named_eq_ok_iff apart_fields distinct).trans
    assign_declared_eq_ok_iff

end Config

/-! ## Instructions -/

/-- An instruction all of whose fields are read from what is supplied. -/
structure Instruction.Filled (supply : String → Option Datum)
    (instruction : Instruction) : Prop where
  word : Given Word.ofDatum (supply "opcode") instruction.word
  operation : Given Operation.ofDatum (supply "mnemonic") instruction.operation
  x : Given readUInt8 (supply "x") instruction.x
  y : Given readUInt8 (supply "y") instruction.y
  n : Given readUInt8 (supply "n") instruction.n
  kk : Given readUInt8 (supply "kk") instruction.kk
  addr : Given readUInt16 (supply "addr") instruction.addr

namespace Instruction

theorem apart_fields : Apart fields where
  names := by decide
  independent := by
    simp only [fields, List.pairwise_cons, List.forall_mem_cons,
      List.not_mem_nil, false_imp_iff, implies_true, and_true,
      List.Pairwise.nil]
    and_intros
    all_goals exact independent_of fun _ _ _ => rfl

/-- The draft of an instruction in which no field is missing. -/
def toDraft (instruction : Instruction) : Draft where
  word := instruction.word
  operation := instruction.operation
  x := instruction.x
  y := instruction.y
  n := instruction.n
  kk := instruction.kk
  addr := instruction.addr

theorem finish_eq_ok_iff {draft : Draft} {instruction : Instruction} :
    draft.finish = .ok instruction ↔ draft = instruction.toDraft := by
  constructor
  · intro finished
    obtain ⟨_, word, finished⟩ := exists_of_bind_eq_ok finished
    obtain ⟨_, operation, finished⟩ := exists_of_bind_eq_ok finished
    obtain ⟨_, x, finished⟩ := exists_of_bind_eq_ok finished
    obtain ⟨_, y, finished⟩ := exists_of_bind_eq_ok finished
    obtain ⟨_, n, finished⟩ := exists_of_bind_eq_ok finished
    obtain ⟨_, kk, finished⟩ := exists_of_bind_eq_ok finished
    obtain ⟨_, addr, finished⟩ := exists_of_bind_eq_ok finished
    cases finished
    cases draft
    rw [required_eq_ok_iff] at word operation x y n kk addr
    subst word operation x y n kk addr
    rfl
  · rintro rfl
    rfl

theorem assign_declared_eq_ok_iff {instruction : Instruction} :
    assign {} (declared fields supply) = .ok instruction.toDraft ↔
      instruction.Filled supply := by
  constructor
  · intro assigned
    obtain ⟨_, word, assigned⟩ :=
      (assign_declared_some (fun word (draft : Draft) =>
        { draft with word }) rfl).mp assigned
    obtain ⟨_, operation, assigned⟩ :=
      (assign_declared_some (fun operation (draft : Draft) =>
        { draft with operation }) rfl).mp assigned
    obtain ⟨_, x, assigned⟩ :=
      (assign_declared_some (fun x (draft : Draft) =>
        { draft with x }) rfl).mp assigned
    obtain ⟨_, y, assigned⟩ :=
      (assign_declared_some (fun y (draft : Draft) =>
        { draft with y }) rfl).mp assigned
    obtain ⟨_, n, assigned⟩ :=
      (assign_declared_some (fun n (draft : Draft) =>
        { draft with n }) rfl).mp assigned
    obtain ⟨_, kk, assigned⟩ :=
      (assign_declared_some (fun kk (draft : Draft) =>
        { draft with kk }) rfl).mp assigned
    obtain ⟨_, addr, assigned⟩ :=
      (assign_declared_some (fun addr (draft : Draft) =>
        { draft with addr }) rfl).mp assigned
    cases assigned
    exact ⟨chosen_some_iff.mp word, chosen_some_iff.mp operation,
      chosen_some_iff.mp x, chosen_some_iff.mp y, chosen_some_iff.mp n,
      chosen_some_iff.mp kk, chosen_some_iff.mp addr⟩
  · intro filled
    refine assign_declared_given filled.word ?_
    refine assign_declared_given filled.operation ?_
    refine assign_declared_given filled.x ?_
    refine assign_declared_given filled.y ?_
    refine assign_declared_given filled.n ?_
    refine assign_declared_given filled.kk ?_
    exact assign_declared_given filled.addr rfl

theorem ofDatum_map_eq_ok_iff (distinct : (entries.map Prod.fst).Nodup)
    {instruction : Instruction} :
    Instruction.ofDatum (.map entries) = .ok instruction ↔
      instruction.Filled (supplied entries) :=
  (readRecord_map_eq_ok_iff_complete apart_fields finish_eq_ok_iff
    distinct).trans assign_declared_eq_ok_iff

/-- The keys of an instruction in the order of a list. -/
theorem positional : Positional
    ["opcode", "mnemonic", "x", "y", "n", "kk", "addr"]
    Instruction.ofDatum := by
  refine positional_readRecord apart_fields ?_
  intro entries distinct instruction read field declared
  have filled := (ofDatum_map_eq_ok_iff distinct).mp read
  simp only [fields, List.mem_cons, List.not_mem_nil, or_false] at declared
  rcases declared with rfl | rfl | rfl | rfl | rfl | rfl | rfl
  · exact filled.word.exists_eq_some
  · exact filled.operation.exists_eq_some
  · exact filled.x.exists_eq_some
  · exact filled.y.exists_eq_some
  · exact filled.n.exists_eq_some
  · exact filled.kk.exists_eq_some
  · exact filled.addr.exists_eq_some

end Instruction

/-! ## Speeds -/

/-- A speed whose ratio is read from what is supplied. -/
def Speed.Filled (supply : String → Option Datum) (speed : Speed) : Prop :=
  ∃ numerator denominator,
    Given readUInt32 (supply "numerator") numerator ∧
      Given readUInt32 (supply "denominator") denominator ∧
      Speed.ofRatio numerator denominator = .ok speed

namespace Speed

theorem apart_fields : Apart fields where
  names := by decide
  independent := List.pairwise_pair.mpr (independent_of fun _ _ _ => rfl)

theorem finish_eq_ok_iff {draft : Draft} {speed : Speed} :
    draft.finish = .ok speed ↔
      ∃ numerator denominator, draft = ⟨some numerator, some denominator⟩ ∧
        ofRatio numerator denominator = .ok speed := by
  constructor
  · intro finished
    obtain ⟨_, numerator, finished⟩ := exists_of_bind_eq_ok finished
    obtain ⟨_, denominator, finished⟩ := exists_of_bind_eq_ok finished
    cases draft
    rw [required_eq_ok_iff] at numerator denominator
    subst numerator denominator
    exact ⟨_, _, rfl, eq_ok_of_mapError_eq_ok finished⟩
  · rintro ⟨_, _, rfl, made⟩
    exact congrArg (Except.mapError ReadError.invalidSpeed) made

theorem assign_declared_eq_ok_iff {numerator denominator : UInt32} :
    assign {} (declared fields supply) =
        .ok ⟨some numerator, some denominator⟩ ↔
      Given readUInt32 (supply "numerator") numerator ∧
        Given readUInt32 (supply "denominator") denominator := by
  constructor
  · intro assigned
    obtain ⟨_, numerator, assigned⟩ :=
      (assign_declared_some (fun numerator (draft : Draft) =>
        { draft with numerator }) rfl).mp assigned
    obtain ⟨_, denominator, assigned⟩ :=
      (assign_declared_some (fun denominator (draft : Draft) =>
        { draft with denominator }) rfl).mp assigned
    cases assigned
    exact ⟨chosen_some_iff.mp numerator, chosen_some_iff.mp denominator⟩
  · rintro ⟨numerator, denominator⟩
    refine assign_declared_given numerator ?_
    exact assign_declared_given denominator rfl

theorem ofDatum_map_eq_ok_iff (distinct : (entries.map Prod.fst).Nodup)
    {speed : Speed} :
    Speed.ofDatum (.map entries) = .ok speed ↔
      speed.Filled (supplied entries) := by
  rw [Speed.ofDatum, readRecord_map_eq_ok_iff]
  simp only [assign_named_eq_ok_iff apart_fields distinct, finish_eq_ok_iff]
  constructor
  · rintro ⟨_, assigned, numerator, denominator, rfl, made⟩
    rcases assign_declared_eq_ok_iff.mp assigned with ⟨upper, lower⟩
    exact ⟨numerator, denominator, upper, lower, made⟩
  · rintro ⟨numerator, denominator, upper, lower, made⟩
    exact ⟨_, assign_declared_eq_ok_iff.mpr ⟨upper, lower⟩, numerator,
      denominator, rfl, made⟩

/-- A map is a speed if both parts are written in it and neither is zero. -/
theorem exists_ofDatum_map_iff (distinct : (entries.map Prod.fst).Nodup) :
    (∃ speed, Speed.ofDatum (.map entries) = .ok speed) ↔
      ∃ numerator denominator : UInt32,
        supplied entries "numerator" = some (.nat numerator.toNat) ∧
          supplied entries "denominator" = some (.nat denominator.toNat) ∧
          0 < numerator.toNat ∧ 0 < denominator.toNat := by
  simp only [ofDatum_map_eq_ok_iff distinct, Filled, Given,
    readUInt32_eq_ok_iff, exists_eq_right]
  constructor
  · rintro ⟨speed, numerator, denominator, upper, lower, made⟩
    exact ⟨numerator, denominator, upper, lower,
      (ofRatio_eq_ok_iff _ _).mp ⟨speed, made⟩⟩
  · rintro ⟨numerator, denominator, upper, lower, positive⟩
    rcases (ofRatio_eq_ok_iff _ _).mpr positive with ⟨speed, made⟩
    exact ⟨speed, numerator, denominator, upper, lower, made⟩

theorem positional :
    Positional ["numerator", "denominator"] Speed.ofDatum := by
  refine positional_readRecord apart_fields ?_
  intro entries distinct speed read field declared
  obtain ⟨_, _, numerator, denominator, -⟩ :=
    (ofDatum_map_eq_ok_iff distinct).mp read
  simp only [fields, List.mem_cons, List.not_mem_nil, or_false] at declared
  rcases declared with rfl | rfl
  · exact numerator.exists_eq_some
  · exact denominator.exists_eq_some

end Speed

/-! ## Paces -/

/-- A pace all of whose fields are read from what is supplied. -/
structure Pace.Filled (supply : String → Option Datum)
    (pace : Pace) : Prop where
  mode : Given Mode.ofDatum (supply "mode") pace.mode
  speed : Given Speed.ofDatum (supply "speed") pace.speed

namespace Pace

theorem apart_fields : Apart fields where
  names := by decide
  independent := List.pairwise_pair.mpr (independent_of fun _ _ _ => rfl)

/-- The draft of a pace in which no field is missing. -/
def toDraft (pace : Pace) : Draft where
  mode := pace.mode
  speed := pace.speed

theorem finish_eq_ok_iff {draft : Draft} {pace : Pace} :
    draft.finish = .ok pace ↔ draft = pace.toDraft := by
  constructor
  · intro finished
    obtain ⟨_, mode, finished⟩ := exists_of_bind_eq_ok finished
    obtain ⟨_, speed, finished⟩ := exists_of_bind_eq_ok finished
    cases finished
    cases draft
    rw [required_eq_ok_iff] at mode speed
    subst mode speed
    rfl
  · rintro rfl
    rfl

theorem assign_declared_eq_ok_iff {pace : Pace} :
    assign {} (declared fields supply) = .ok pace.toDraft ↔
      pace.Filled supply := by
  constructor
  · intro assigned
    obtain ⟨_, mode, assigned⟩ :=
      (assign_declared_some (fun mode (draft : Draft) =>
        { draft with mode }) rfl).mp assigned
    obtain ⟨_, speed, assigned⟩ :=
      (assign_declared_some (fun speed (draft : Draft) =>
        { draft with speed }) rfl).mp assigned
    cases assigned
    exact ⟨chosen_some_iff.mp mode, chosen_some_iff.mp speed⟩
  · intro filled
    refine assign_declared_given filled.mode ?_
    exact assign_declared_given filled.speed rfl

theorem ofDatum_map_eq_ok_iff (distinct : (entries.map Prod.fst).Nodup)
    {pace : Pace} :
    Pace.ofDatum (.map entries) = .ok pace ↔
      pace.Filled (supplied entries) :=
  (readRecord_map_eq_ok_iff_complete apart_fields finish_eq_ok_iff
    distinct).trans assign_declared_eq_ok_iff

theorem positional : Positional ["mode", "speed"] Pace.ofDatum := by
  refine positional_readRecord apart_fields ?_
  intro entries distinct pace read field declared
  have filled := (ofDatum_map_eq_ok_iff distinct).mp read
  simp only [fields, List.mem_cons, List.not_mem_nil, or_false] at declared
  rcases declared with rfl | rfl
  · exact filled.mode.exists_eq_some
  · exact filled.speed.exists_eq_some

end Pace

/--
Partial and positional forms mean the same.  A map is a configuration or a
dialect exactly if the value under every known key is acceptable for its
field; then each field is what is read from the value under its key, or the
standard value without one, and no other key matters.  A map is an
instruction, a pace or a speed exactly if every field is given in it, and the
ratio of a speed is positive.  A list is read as the map that gives its
elements to the first keys in the order of declaration, and it may not be
longer than these.
-/
theorem partial_and_positional_forms :
    (∀ entries : List (String × Datum), (entries.map Prod.fst).Nodup →
      ((∃ config, Config.ofDatum (.map entries) = .ok config) ↔
          ∀ field ∈ Config.fields, ∀ datum,
            supplied entries field.name = some datum →
              Accepts field datum) ∧
        (∀ config, Config.ofDatum (.map entries) = .ok config ↔
          config.Overlaid (supplied entries)) ∧
        ((∃ dialect, Dialect.ofDatum (.map entries) = .ok dialect) ↔
          ∀ field ∈ Dialect.fields, ∀ datum,
            supplied entries field.name = some datum →
              Accepts field datum) ∧
        (∀ dialect, Dialect.ofDatum (.map entries) = .ok dialect ↔
          dialect.Overlaid (supplied entries)) ∧
        (∀ instruction,
          Instruction.ofDatum (.map entries) = .ok instruction ↔
            instruction.Filled (supplied entries)) ∧
        (∀ pace, Pace.ofDatum (.map entries) = .ok pace ↔
          pace.Filled (supplied entries)) ∧
        (∀ speed, Speed.ofDatum (.map entries) = .ok speed ↔
          speed.Filled (supplied entries)) ∧
        ((∃ speed, Speed.ofDatum (.map entries) = .ok speed) ↔
          ∃ numerator denominator : UInt32,
            supplied entries "numerator" = some (.nat numerator.toNat) ∧
              supplied entries "denominator" =
                some (.nat denominator.toNat) ∧
              0 < numerator.toNat ∧ 0 < denominator.toNat)) ∧
      Positional
        ["base_cycles_per_pulse", "initial_speed", "capture",
          "history_capacity", "decode"] Config.ofDatum ∧
      Positional ["zero_group"] Dialect.ofDatum ∧
      Positional ["opcode", "mnemonic", "x", "y", "n", "kk", "addr"]
        Instruction.ofDatum ∧
      Positional ["mode", "speed"] Pace.ofDatum ∧
      Positional ["numerator", "denominator"] Speed.ofDatum := by
  refine ⟨fun entries distinct =>
    ⟨exists_readOverlay_map_iff Config.apart_fields distinct,
      fun _ => Config.ofDatum_map_eq_ok_iff distinct,
      exists_readOverlay_map_iff Dialect.apart_fields distinct,
      fun _ => Dialect.ofDatum_map_eq_ok_iff distinct,
      fun _ => Instruction.ofDatum_map_eq_ok_iff distinct,
      fun _ => Pace.ofDatum_map_eq_ok_iff distinct,
      fun _ => Speed.ofDatum_map_eq_ok_iff distinct,
      Speed.exists_ofDatum_map_iff distinct⟩,
    positional_readOverlay Config.apart_fields,
    positional_readOverlay Dialect.apart_fields, Instruction.positional,
    Pace.positional, Speed.positional⟩

/--
Two of five fields and a key that is not known, with a speed given as a list;
and the first two fields as a list.
-/
theorem partial_and_positional_forms_of_two :
    let entries : List (String × Datum) :=
      [("capture", .bool false), ("initial_speed", .list [.nat 4, .nat 2]),
        ("zoom", .null)]
    let items : List Datum := [.nat 7, .list [.nat 4, .nat 2]]
    (entries.map Prod.fst).Nodup ∧
      Config.Overlaid (supplied entries)
        { capture := false, initialSpeed := .double } ∧
      items.length ≤ 5 ∧
      Config.ofDatum
          (ofEntries
            (["base_cycles_per_pulse", "initial_speed", "capture",
              "history_capacity", "decode"].zip items)) =
        .ok { baseCycles := 7, initialSpeed := .double } := by
  intro entries items
  have distinct : (entries.map Prod.fst).Nodup := by decide
  have fits : items.length ≤ 5 := by decide
  have forms := partial_and_positional_forms
  have overlaid := (forms.1 entries distinct).2.1
    { capture := false, initialSpeed := .double }
  exact ⟨distinct, overlaid.mp (by decide +kernel), fits,
    (forms.2.1.agrees items fits _).mp (by decide +kernel)⟩

end Chip8
