import Chip8.Proofs.Machine.Replay
import Chip8.Proofs.Pacer.Pacing

/-!
# Replays and listings agree

A replay executes the words of an image, and a listing shows them; neither
looks at the other.  The history of a paced replay is nevertheless a piece of
the listing, read backwards and around its end.

A run of a replay comes to attempts, so its words are known from their number,
by `tickResults_ofProgram`; and no tick of it fails.
-/

namespace Chip8

namespace Pacer

/-- However a replay is paced, its ticks go around the program. -/
theorem tickResults_ofProgram (program : List Word) (config : Config)
    (commands : List Command) :
    let begun := start config (Replay.ofProgram program)
    let final := begun.runAll Replay.machine commands
    begun.tickResults Replay.machine commands =
        ((List.range final.cycleCount).map
          (Replay.wordAt program)).map .ok ∧
      final.machineState = Replay.afterTicks program final.cycleCount := by
  intro begun final
  have counted := cycleCount_runAll_eq_length Replay.machine begun commands
  have trace := attempt_tickResults Replay.machine begun commands
  have state : begun.machineState = Replay.afterTicks program 0 :=
    Replay.ofProgram_eq_afterTicks program
  rw [state, Replay.attempt_afterTicks, Traced.mk.injEq, Nat.zero_add]
    at trace
  rcases trace with ⟨last, results⟩
  have all : (begun.tickResults Replay.machine commands).length =
      final.cycleCount := by
    rw [← results, executedWords_map_ok, List.length_map,
      List.length_range'] at counted
    exact (counted.trans (Nat.zero_add _)).symm
  rw [all] at last results
  rw [List.range_eq_range']
  exact ⟨results.symm, last.symm⟩

/-- A newest-first view of counted elements, cut at a capacity. -/
theorem getElem?_newest {α : Type} (element : Nat → α)
    {count capacity index : Nat} (shown : index < min count capacity) :
    (((List.range count).map element).reverse.take capacity)[index]? =
      some (element (count - 1 - index)) := by
  rcases Nat.lt_min.mp shown with ⟨counted, kept⟩
  have place : count - 1 - index < count := by omega
  rw [List.getElem?_take_of_lt kept, List.getElem?_reverse]
  · simp only [List.length_map, List.length_range, List.getElem?_map,
      List.getElem?_range place, Option.map_some]
  · simpa using counted

/-- The history of a replay that keeps its record. -/
theorem history_runAll_ofProgram (program : List Word) {config : Config}
    (capturing : config.capture = true) {commands : List Command}
    (keeping : ∀ command ∈ commands, command.keepsRecord = true) :
    let final :=
      (start config (Replay.ofProgram program)).runAll Replay.machine
        commands
    final.history.toList =
      ((List.range final.cycleCount).map fun tick =>
        Instruction.decode config.dialect
          (Replay.wordAt program tick)).reverse.take
            config.historyCapacity.toNat := by
  intro final
  have recorded :=
    history_runAll_of_keepsRecord Replay.machine config
      (Replay.ofProgram program) capturing keeping
  rw [(tickResults_ofProgram program config commands).1, executedWords_map_ok,
    List.map_map] at recorded
  exact recorded

/-- The entry of a listing at a tick shows the word that the tick executes. -/
theorem instruction_at_tick (program : List Word) (dialect : Dialect)
    (address : UInt16) (tick : Nat) :
    let entries := Listing.entriesFrom dialect address program
    (if entries.length = 0 then
        some (.decode dialect ⟨0⟩)
      else
        entries[tick % entries.length]?.map Listing.Entry.instruction) =
      some (.decode dialect (Replay.wordAt program tick)) := by
  intro entries
  have length : entries.length = program.length :=
    Listing.length_entriesFrom dialect address program
  rw [← List.getElem?_map, Listing.map_instruction_entriesFrom, length]
  split
  next none =>
    rw [List.eq_nil_of_length_eq_zero none]
    rfl
  next some =>
    have inside := Nat.mod_lt tick (Nat.pos_of_ne_zero some)
    rw [Replay.wordAt, List.getElem?_map, List.getElem?_eq_getElem inside]
    rfl

/--
Replaying an image and listing it agree.  However a replay of an image is
paced, with capture on and nothing forgotten, it has made as many ticks as
cycles are counted, and none of them failed.  Its history shows the newest of
these cycles, each with the instruction that the listing of the image in the
same dialect has where that cycle falls, counted around the listing; without
any words to list, all cycles execute the zero word.
-/
theorem replay_agrees_with_listing (image : List UInt8) (address : UInt16)
    (config : Config) (commands : List Command)
    (capturing : config.capture = true)
    (keeping : ∀ command ∈ commands, command.keepsRecord = true) :
    let begun := Pacer.start config (Replay.ofImage image)
    let final := begun.runAll Replay.machine commands
    let entries := (Listing.ofImage ⟨address, config.dialect⟩ image).entries
    let shown := min final.cycleCount config.historyCapacity.toNat
    final.machineState.ticks = final.cycleCount ∧
      (begun.exchanges Replay.machine commands).countP Exchange.failed = 0 ∧
      final.history.toList.length = shown ∧
      ∀ index < shown,
        final.history.toList[index]? =
          if entries.length = 0 then
            some (.decode config.dialect ⟨0⟩)
          else
            entries[(final.cycleCount - 1 - index) % entries.length]?.map
              Listing.Entry.instruction := by
  intro begun final entries shown
  rcases tickResults_ofProgram (Word.ofImage image) config commands with
    ⟨results, state⟩
  have history :
      final.history.toList =
        ((List.range final.cycleCount).map fun tick =>
          Instruction.decode config.dialect
            (Replay.wordAt (Word.ofImage image) tick)).reverse.take
              config.historyCapacity.toNat :=
    history_runAll_ofProgram _ capturing keeping
  refine ⟨congrArg Replay.ticks state, ?_, ?_, ?_⟩
  · have ticks : 0 + (begun.tickResults Replay.machine commands).length =
        final.cycleCount + _ :=
      length_tickResults Replay.machine begun commands
    have length := congrArg List.length results
    rw [List.length_map, List.length_map, List.length_range] at length
    exact Nat.left_eq_add.mp
      (length.symm.trans ((Nat.zero_add _).symm.trans ticks))
  · rw [history, List.length_take, List.length_reverse, List.length_map,
      List.length_range]
    exact Nat.min_comm _ _
  · intro index inside
    rw [history, getElem?_newest _ inside]
    exact (instruction_at_tick _ config.dialect address _).symm

/--
A pulse of four cycles and a step of two words and a byte left over; the
history keeps the last three cycles.
-/
theorem replay_agrees_with_listing_around :
    let image : List UInt8 := [0x00, 0xE0, 0x12, 0x00, 0xFF]
    let config : Config :=
      { baseCycles := 2, initialSpeed := .double, historyCapacity := 3 }
    let commands : List Command := [.pulse, .pause, .step]
    let begun := Pacer.start config (Replay.ofImage image)
    let final := begun.runAll Replay.machine commands
    let entries := (Listing.ofImage ⟨0xFFFE, .standard⟩ image).entries
    (∀ command ∈ commands, command.keepsRecord = true) ∧
      final.cycleCount = 5 ∧ entries.length = 2 ∧
      final.history.toList.length = 3 ∧
      final.history.toList[1]? =
        entries[(5 - 1 - 1) % 2]?.map Listing.Entry.instruction := by
  intro image config commands begun final entries
  have keeping : ∀ command ∈ commands, command.keepsRecord = true := by
    decide
  have agrees :=
    replay_agrees_with_listing image 0xFFFE config commands rfl keeping
  exact ⟨keeping, by decide, rfl, agrees.2.2.1.trans (by decide),
    (agrees.2.2.2 1 (by decide)).trans (by decide)⟩

end Pacer

end Chip8
