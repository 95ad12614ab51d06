import Chip8.Machine.Script
import Chip8.Proofs.Pacer.Capture
import Chip8.Proofs.Pacer.Readings

/-!
# The log of a run is faithful

Whoever reads the log of a run, and nothing else, knows the mode of the pacer,
its counted cycles, which of its pulses failed, and its history.

The log has the events that the pacer tells, not those of the ticks of its
machine, which may tell of anything.  It grows by what each command tells, so
every reading of a whole run is the reading of its commands one by one.
-/

namespace Chip8

variable {σ ε : Type}

/-! ## Logs of runs -/

namespace Pacer

/-- What the pacer tells of some commands, the first event first. -/
def log (machine : Machine σ ε) (pacer : Pacer σ)
    (commands : List Command) : List Event :=
  (pacer.outcomes machine.muted commands).flatMap Outcome.events

theorem log_cons (machine : Machine σ ε) (pacer : Pacer σ)
    (command : Command) (rest : List Command) :
    pacer.log machine (command :: rest) =
      (pacer.perform machine.muted command).events ++
        (pacer.perform machine command).pacer.log machine rest := by
  rw [← (perform_muted machine pacer command).pacer]
  rfl

/-- The log leaves out the events of the ticks and nothing else. -/
theorem log_sublist (machine : Machine σ ε) (pacer : Pacer σ)
    (commands : List Command) :
    (pacer.log machine commands).Sublist
      ((pacer.outcomes machine commands).flatMap Outcome.events) := by
  induction commands generalizing pacer with
  | nil => exact .slnil
  | cons command rest ih =>
      rw [log_cons, outcomes, List.flatMap_cons]
      exact (perform_muted machine pacer command).events.append (ih _)

/-- If the ticks tell of nothing, the log has all events. -/
theorem log_of_silent {machine : Machine σ ε}
    (silent : ∀ state, (machine.tick state).events = [])
    (pacer : Pacer σ) (commands : List Command) :
    pacer.log machine commands =
      (pacer.outcomes machine commands).flatMap Outcome.events := by
  rw [log, Machine.muted_eq_self silent]

/-- The remark on a command. -/
def remarkOn (machine : Machine σ ε) (pacer : Pacer σ)
    (command : Command) : Option Event :=
  pacer.remark machine.describe command (pacer.perform machine command).reply

/-- To a reading that overlooks executed words, a log has remarks only. -/
theorem filterMap_log_cons {α : Type} {read : Event → Option α}
    (overlooks : ∀ word operation, read (.executed word operation) = none)
    (machine : Machine σ ε) (pacer : Pacer σ) (command : Command)
    (rest : List Command) :
    (pacer.log machine (command :: rest)).filterMap read =
      ((pacer.remarkOn machine command).bind read).toList ++
        ((pacer.perform machine command).pacer.log machine rest).filterMap
          read := by
  rw [log_cons, List.filterMap_append, events_perform_muted,
    filterMap_telling overlooks]
  rfl

theorem faithfullyTold_perform (machine : Machine σ ε) (pacer : Pacer σ)
    (command : Command) :
    FaithfullyTold pacer ⟨command, (pacer.perform machine command).reply⟩
      (pacer.perform machine command).pacer
      (pacer.remarkOn machine command) :=
  (transition_perform machine pacer command).faithfullyTold machine.describe

theorem mode_log (machine : Machine σ ε) (pacer : Pacer σ)
    (commands : List Command) :
    (pacer.runAll machine commands).pace.mode =
      modeTold pacer.pace.mode (pacer.log machine commands) := by
  induction commands generalizing pacer with
  | nil => rfl
  | cons command rest ih =>
      have told := (faithfullyTold_perform machine pacer command).mode
      rw [runAll_cons, ih, told, modeTold, modeTold,
        filterMap_log_cons (fun _ _ => rfl), List.getLast?_append,
        Option.getD_or]
      cases (pacer.remarkOn machine command).bind Event.turn? <;> rfl

theorem cycleCount_log (machine : Machine σ ε) (pacer : Pacer σ)
    (commands : List Command) :
    (pacer.runAll machine commands).cycleCount =
      pacer.cycleCount + cyclesTold (pacer.log machine commands) := by
  induction commands generalizing pacer with
  | nil => rfl
  | cons command rest ih =>
      have told := (faithfullyTold_perform machine pacer command).cycles
      rw [runAll_cons, ih, told, cyclesTold, cyclesTold,
        filterMap_log_cons (fun _ _ => rfl), List.sum_append, Nat.add_assoc]
      cases (pacer.remarkOn machine command).bind Event.cycles? <;> rfl

theorem tallies_log (machine : Machine σ ε) (pacer : Pacer σ)
    (commands : List Command) :
    Tallies pacer.cycleCount (pacer.log machine commands) := by
  induction commands generalizing pacer with
  | nil => exact tallies_of_noTotal _ nofun
  | cons command rest ih =>
      have told := faithfullyTold_perform machine pacer command
      rw [log_cons, events_perform_muted]
      apply (told.tallies _).append
      rw [told.cyclesTold]
      exact ih _

end Pacer

/-! ## Pulses that are never told -/

/-- Whether the pulses among some exchanges failed, the first one first. -/
def pulseFailures (exchanges : List (Exchange ε)) : List Bool :=
  (exchanges.filter (·.command == .pulse)).map Exchange.failed

theorem pulseFailures_cons (exchange : Exchange ε)
    (rest : List (Exchange ε)) :
    pulseFailures (exchange :: rest) =
      if exchange.command == .pulse then
        exchange.failed :: pulseFailures rest
      else
        pulseFailures rest := by
  rw [pulseFailures, List.filter_cons]
  split <;> rfl

/-- The numbers of those that did not fail, counted from a first number. -/
def numbersOfUnfailed : Nat → List Bool → List Nat
  | _, [] => []
  | first, true :: rest => numbersOfUnfailed (first + 1) rest
  | first, false :: rest => first :: numbersOfUnfailed (first + 1) rest

theorem le_of_mem_numbersOfUnfailed {first number : Nat}
    {failures : List Bool}
    (unfailed : number ∈ numbersOfUnfailed first failures) :
    first ≤ number := by
  induction failures generalizing first with
  | nil => cases unfailed
  | cons failed rest ih =>
      cases failed with
      | true => exact Nat.le_of_succ_le (ih unfailed)
      | false =>
          rcases List.mem_cons.mp unfailed with rfl | later
          · exact Nat.le_refl _
          · exact Nat.le_of_succ_le (ih later)

theorem pairwise_numbersOfUnfailed (first : Nat) (failures : List Bool) :
    (numbersOfUnfailed first failures).Pairwise (· < ·) := by
  induction failures generalizing first with
  | nil => exact .nil
  | cons failed rest ih =>
      cases failed with
      | true => exact ih (first + 1)
      | false =>
          refine .cons ?_ (ih (first + 1))
          intro number unfailed
          exact le_of_mem_numbersOfUnfailed unfailed

theorem mem_numbersOfUnfailed_iff (first index : Nat)
    (failures : List Bool) :
    first + index ∈ numbersOfUnfailed first failures ↔
      failures[index]? = some false := by
  induction failures generalizing first index with
  | nil => exact ⟨nofun, nofun⟩
  | cons failed rest ih =>
      cases index with
      | zero =>
          have later : first ∉ numbersOfUnfailed (first + 1) rest := by
            intro unfailed
            exact Nat.lt_irrefl first (le_of_mem_numbersOfUnfailed unfailed)
          cases failed with
          | true => simp [numbersOfUnfailed, later]
          | false => simp [numbersOfUnfailed]
      | succ index =>
          have shifted := ih (first + 1) index
          rw [Nat.add_right_comm, Nat.add_assoc] at shifted
          cases failed with
          | true => simpa [numbersOfUnfailed] using shifted
          | false => simpa [numbersOfUnfailed] using shifted

namespace Pacer

theorem length_pulseFailures (machine : Machine σ ε) (pacer : Pacer σ)
    (commands : List Command) :
    (pulseFailures (pacer.exchanges machine commands)).length =
      commands.count .pulse := by
  induction commands generalizing pacer with
  | nil => rfl
  | cons command rest ih =>
      have later := ih (pacer.perform machine command).pacer
      rw [exchanges_cons, pulseFailures_cons, List.count_cons, ← later]
      cases command == Command.pulse <;> rfl

/-- A log has the numbers of the pulses that did not fail. -/
theorem pulses_log (machine : Machine σ ε) (pacer : Pacer σ)
    (commands : List Command) :
    (pacer.log machine commands).filterMap Event.pulse? =
      numbersOfUnfailed (pacer.pulseCount + 1)
        (pulseFailures (pacer.exchanges machine commands)) := by
  induction commands generalizing pacer with
  | nil => rfl
  | cons command rest ih =>
      have told := (faithfullyTold_perform machine pacer command).pulse
      have counted := (transition_perform machine pacer command).pulseCount_eq
      rw [filterMap_log_cons (fun _ _ => rfl), ih, told, counted,
        exchanges_cons, pulseFailures_cons, Exchange.pulsed]
      cases command == Command.pulse with
      | false => rfl
      | true =>
          cases Exchange.failed
              ⟨command, (pacer.perform machine command).reply⟩ <;> rfl

end Pacer

/-! ## The history on the last page -/

/-- The events after a command, where forgetting turns a page. -/
def turnPage (page : List Event) (command : Command)
    (events : List Event) : List Event :=
  if command = .forget then [] else page ++ events

/-- The rows on a page that a history has room for are the history. -/
def Filed (page : List Event) (pacer : Pacer σ) : Prop :=
  pacer.history.toList.map Instruction.told =
    (page.filterMap Event.row?).reverse.take pacer.history.capacity

theorem Transition.filed {before after : Pacer σ} {command : Command}
    {reply : Reply ε} {results : List (Except ε Word)} {page : List Event}
    (transition : Transition before command reply results after)
    (describe : ε → String) (filed : Filed page before) :
    Filed
      (turnPage page command
        (before.telling (executedWords results)
          (before.remark describe command reply))) after := by
  have told := transition.faithfullyTold describe
  unfold Filed turnPage
  by_cases forgotten : command = .forget
  · subst forgotten
    rw [transition.toList_history_forget]
    exact List.take_nil.symm
  · rw [transition.toList_history_eq forgotten, transition.capacity_eq,
      if_neg forgotten, List.filterMap_append, told.rows,
      List.reverse_append, ← List.map_reverse, List.map_take,
      List.map_append, filed, Window.take_append_take]

namespace Pacer

/-- What the pacer tells after its history was last forgotten. -/
def lastPage (machine : Machine σ ε) (pacer : Pacer σ) (page : List Event)
    (commands : List Command) : List Event :=
  (commands.zip (pacer.outcomes machine.muted commands)).foldl
    (fun page (command, outcome) => turnPage page command outcome.events)
    page

theorem lastPage_cons (machine : Machine σ ε) (pacer : Pacer σ)
    (page : List Event) (command : Command) (rest : List Command) :
    pacer.lastPage machine page (command :: rest) =
      (pacer.perform machine command).pacer.lastPage machine
        (turnPage page command
          (pacer.perform machine.muted command).events) rest := by
  rw [← (perform_muted machine pacer command).pacer]
  rfl

theorem filed_lastPage (machine : Machine σ ε) {pacer : Pacer σ}
    {page : List Event} (filed : Filed page pacer)
    (commands : List Command) :
    Filed (pacer.lastPage machine page commands)
      (pacer.runAll machine commands) := by
  induction commands generalizing pacer page with
  | nil => exact filed
  | cons command rest ih =>
      have transition := transition_perform machine pacer command
      rw [lastPage_cons, events_perform_muted]
      exact ih (transition.filed machine.describe filed)

/--
The log of a run is faithful.  The mode is the one that the last pause, resume
or failure in it tells of, and running if there is none.  The counted cycles
are the sum of those that are told of, and wherever their total is told it is
this sum so far.  The pulses are told of in order, and those never told of are
the ones that failed.  The history shows the newest of the rows told of since
it was last forgotten.  The log has all events but those of the ticks.
-/
theorem log_is_faithful (machine : Machine σ ε) (config : Config)
    (state : σ) (commands : List Command) :
    let begun := Pacer.start config state
    let final := begun.runAll machine commands
    let log := begun.log machine commands
    let told := log.filterMap Event.pulse?
    let failures := pulseFailures (begun.exchanges machine commands)
    let events := (begun.outcomes machine commands).flatMap Outcome.events
    final.pace.mode = modeTold .running log ∧
      final.cycleCount = cyclesTold log ∧
      (∀ earlier event later, log = earlier ++ event :: later →
        ∀ total, event.total? = some total →
          total = cyclesTold (earlier ++ [event])) ∧
      told.Pairwise (· < ·) ∧
      (∀ pulse ∈ told, 1 ≤ pulse ∧ pulse ≤ final.pulseCount) ∧
      (∀ pulse, 1 ≤ pulse → pulse ≤ final.pulseCount →
        (pulse ∉ told ↔ failures[pulse - 1]? = some true)) ∧
      final.history.toList.map Instruction.told =
        (((begun.lastPage machine [] commands).filterMap
          Event.row?).reverse).take config.historyCapacity.toNat ∧
      log.Sublist events ∧
      ((∀ state, (machine.tick state).events = []) → log = events) := by
  intro begun final log told failures events
  have numbers : told = numbersOfUnfailed 1 failures :=
    pulses_log machine begun commands
  have pulses : failures.length = final.pulseCount := by
    rw [length_pulseFailures]
    exact ((pulseCount_runAll machine begun commands).trans
      (Nat.zero_add _)).symm
  have blank : Filed [] begun := List.take_nil.symm
  have filed := filed_lastPage machine blank commands
  refine ⟨mode_log machine begun commands, ?_, ?_, ?_, ?_, ?_, ?_,
    log_sublist machine begun commands, ?_⟩
  · exact (cycleCount_log machine begun commands).trans (Nat.zero_add _)
  · intro earlier event later split total here
    have tallies := tallies_log machine begun commands
    exact (tallies earlier event later split total here).trans
      (Nat.zero_add _)
  · rw [numbers]
    exact pairwise_numbersOfUnfailed 1 failures
  · intro pulse here
    rw [numbers] at here
    have first := le_of_mem_numbersOfUnfailed here
    rcases Nat.exists_eq_add_of_le first with ⟨index, rfl⟩
    have present := (mem_numbersOfUnfailed_iff 1 index failures).mp here
    have inside := (List.getElem?_eq_some_iff.mp present).1
    exact ⟨first, by omega⟩
  · intro pulse first last
    rcases Nat.exists_eq_add_of_le first with ⟨index, rfl⟩
    have inside : index < failures.length := by omega
    rw [numbers, mem_numbersOfUnfailed_iff, Nat.add_sub_cancel_left,
      List.getElem?_eq_getElem inside]
    cases failures[index] <;> simp
  · unfold Filed at filed
    rw [capacity_history_runAll] at filed
    exact filed
  · intro silent
    exact log_of_silent silent begun commands

/-- The third tick of a machine fails, and the pulse after it is ignored. -/
example :
    let machine := Script.machine ⟨[⟨0x00E0⟩, ⟨0x1200⟩], [3], "fault"⟩
    (Pacer.start .standard 0).log machine [.pulse, .pulse, .step, .resume] =
      [.executed ⟨0x00E0⟩ .clearScreen, .executed ⟨0x1200⟩ .jump,
        .machineFailed 2 "fault at tick 3", .pulseIgnored 2,
        .executed ⟨0x1200⟩ .jump, .stepped ⟨0x1200⟩ .jump 3,
        .resumed 3] := by
  decide

end Pacer

end Chip8
