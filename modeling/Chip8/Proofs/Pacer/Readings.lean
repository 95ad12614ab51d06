import Chip8.Proofs.Pacer.Accounting
import Chip8.Proofs.Pacer.Remarks

/-!
# Reading events

The mode of a pacer, its counted cycles, the numbers of its pulses and the
rows of its history are each read off events by a partial reading of its own.

A command is told faithfully if these readings find in its remark what it has
changed, and nothing else: `faithfullyTold` says this of every transition.
-/

namespace Chip8

variable {σ ε : Type}

/-! ## Readings -/

namespace Event

/-- The mode that an event tells the pacer to be in from now on. -/
def turn? : Event → Option Mode
  | .paused _ => some .paused
  | .resumed _ => some .running
  | .machineFailed _ _ => some .paused
  | _ => none

/-- The cycles of which an event tells that they were executed. -/
def cycles? : Event → Option Nat
  | .pulseComplete _ cycles => some cycles
  | .machineFailed cycles _ => some cycles
  | .stepped .. => some 1
  | _ => none

/-- The count of all cycles, where an event tells it. -/
def total? : Event → Option Nat
  | .paused total => some total
  | .resumed total => some total
  | .stepped _ _ total => some total
  | _ => none

/-- The number of the pulse of which an event tells. -/
def pulse? : Event → Option Nat
  | .pulseComplete pulse _ => some pulse
  | .pulseIgnored pulse => some pulse
  | _ => none

/-- The word and the label of which an event tells that it was executed. -/
def row? : Event → Option (Word × String)
  | .executed word operation => some (word, operation.label)
  | _ => none

end Event

/-- What a log tells of an instruction. -/
def Instruction.told (instruction : Instruction) : Word × String :=
  (instruction.word, instruction.label)

/-- The mode told by a log, as the last turn in it leaves it. -/
def modeTold (initial : Mode) (log : List Event) : Mode :=
  (log.filterMap Event.turn?).getLast?.getD initial

/-- The number of cycles told by a log. -/
def cyclesTold (log : List Event) : Nat :=
  (log.filterMap Event.cycles?).sum

theorem cyclesTold_append (earlier later : List Event) :
    cyclesTold (earlier ++ later) =
      cyclesTold earlier + cyclesTold later := by
  simp only [cyclesTold, List.filterMap_append, List.sum_append]

/-- Every total in a log is the count of the cycles told until then. -/
def Tallies (count : Nat) (log : List Event) : Prop :=
  ∀ earlier event later, log = earlier ++ event :: later →
    ∀ total, event.total? = some total →
      total = count + cyclesTold (earlier ++ [event])

theorem Tallies.append {count : Nat} {first second : List Event}
    (left : Tallies count first)
    (right : Tallies (count + cyclesTold first) second) :
    Tallies count (first ++ second) := by
  intro earlier event later split total told
  rcases List.append_eq_append_iff.mp split with
    ⟨middle, rfl, whole⟩ | ⟨middle, rfl, whole⟩
  · have here := right middle event later whole total told
    rw [here, List.append_assoc, cyclesTold_append first, Nat.add_assoc]
  · cases middle with
    | nil =>
        rw [List.append_nil] at right
        have here := right [] event later whole.symm total told
        rw [cyclesTold_append, ← Nat.add_assoc]
        exact here
    | cons next middle =>
        rcases List.cons.inj whole with ⟨rfl, rfl⟩
        exact left earlier event middle rfl total told

/-- A log without totals tallies from any count. -/
theorem tallies_of_noTotal (count : Nat) {log : List Event}
    (noTotal : ∀ event ∈ log, event.total? = none) : Tallies count log := by
  rintro earlier event later rfl total told
  have none := noTotal event (List.mem_append_cons_self ..)
  rw [none] at told
  cases told

theorem tallies_singleton {count : Nat} {event : Event}
    (exact : ∀ total, event.total? = some total →
      total = count + cyclesTold [event]) :
    Tallies count [event] := by
  intro earlier other later split total told
  rcases List.singleton_eq_append_iff.mp split with ⟨rfl, rest⟩ | ⟨_, rest⟩
  · rcases List.cons.inj rest with ⟨rfl, _⟩
    exact exact total told
  · cases rest

/-! ## What one command adds to a log -/

namespace Pacer

theorem mem_observed {before : Pacer σ} {words : List Word} {event : Event}
    (observed : event ∈ words.flatMap before.observe) :
    ∃ word operation, event = .executed word operation := by
  rcases List.mem_flatMap.mp observed with ⟨word, _, here⟩
  unfold observe at here
  split at here
  · exact ⟨word, _, List.mem_singleton.mp here⟩
  · cases here

theorem filterMap_observed {α : Type} {read : Event → Option α}
    (overlooks : ∀ word operation, read (.executed word operation) = none)
    (before : Pacer σ) (words : List Word) :
    (words.flatMap before.observe).filterMap read = [] := by
  apply List.filterMap_eq_nil_iff.mpr
  intro event observed
  rcases mem_observed observed with ⟨word, operation, rfl⟩
  exact overlooks word operation

/-- To a reading that overlooks executed words, a command is its remark. -/
theorem filterMap_telling {α : Type} {read : Event → Option α}
    (overlooks : ∀ word operation, read (.executed word operation) = none)
    (before : Pacer σ) (words : List Word) (remark : Option Event) :
    (before.telling words remark).filterMap read =
      (remark.bind read).toList := by
  rw [telling, List.filterMap_append, filterMap_observed overlooks,
    List.nil_append]
  cases remark with
  | none => rfl
  | some event =>
      change [event].filterMap read = (read event).toList
      cases seen : read event with
      | none => exact List.filterMap_cons_none seen
      | some value => exact List.filterMap_cons_some seen

/-- The rows of the observed words are those that the history gets. -/
theorem filterMap_row?_observed (before : Pacer σ) (words : List Word) :
    (words.flatMap before.observe).filterMap Event.row? =
      (before.rows words).map Instruction.told := by
  unfold observe rows
  cases before.config.capture with
  | true =>
      induction words with
      | nil => rfl
      | cons word rest ih => exact congrArg (List.cons _) ih
  | false =>
      simp

end Pacer

/-- Whether an exchange is a pulse that did not fail. -/
def Exchange.pulsed (exchange : Exchange ε) : Bool :=
  exchange.command == .pulse && !exchange.failed

/-- What is told of an exchange tells what it has changed. -/
structure FaithfullyTold (before : Pacer σ) (exchange : Exchange ε)
    (after : Pacer σ) (remark : Option Event) : Prop where
  mode :
    after.pace.mode =
      (remark.bind Event.turn?).getD before.pace.mode
  cycles :
    after.cycleCount =
      before.cycleCount + (remark.bind Event.cycles?).getD 0
  total : ∀ total ∈ remark.bind Event.total?, total = after.cycleCount
  pulse :
    remark.bind Event.pulse? =
      if exchange.pulsed then some after.pulseCount else none
  row : remark.bind Event.row? = none

/-- An exchange of which nothing is told has changed nothing that is told. -/
theorem faithfullyTold_none {before after : Pacer σ}
    {exchange : Exchange ε} (mode : after.pace.mode = before.pace.mode)
    (cycles : after.cycleCount = before.cycleCount)
    (other : exchange.pulsed = false) :
    FaithfullyTold before exchange after none where
  mode := mode
  cycles := cycles
  total := nofun
  pulse := by rw [other]; rfl
  row := rfl

/-- Every remark is faithful. -/
theorem Transition.faithfullyTold {before after : Pacer σ}
    {command : Command} {reply : Reply ε} {results : List (Except ε Word)}
    (transition : Transition before command reply results after)
    (describe : ε → String) :
    FaithfullyTold before ⟨command, reply⟩ after
      (before.remark describe command reply) := by
  cases transition with
  | pulseIgnored paused => exact ⟨rfl, rfl, nofun, rfl, rfl⟩
  | pulseComplete words state running complete =>
      refine ⟨rfl, ?_, nofun, rfl, rfl⟩
      exact congrArg (before.cycleCount + ·) complete
  | pulseFailed words cause state =>
      exact ⟨rfl, rfl, nofun, rfl, rfl⟩
  | stepIgnored running => exact ⟨rfl, rfl, nofun, rfl, rfl⟩
  | stepped word state =>
      refine ⟨rfl, rfl, ?_, rfl, rfl⟩
      rintro total ⟨⟩
      rfl
  | stepFailed cause state => exact ⟨rfl, rfl, nofun, rfl, rfl⟩
  | pause =>
      unfold Pacer.remark
      cases mode : before.pace.mode with
      | running =>
          refine ⟨rfl, rfl, ?_, rfl, rfl⟩
          rintro total ⟨⟩
          rfl
      | paused => exact faithfullyTold_none mode.symm rfl rfl
  | resume =>
      unfold Pacer.remark
      cases mode : before.pace.mode with
      | running => exact faithfullyTold_none mode.symm rfl rfl
      | paused =>
          refine ⟨rfl, rfl, ?_, rfl, rfl⟩
          rintro total ⟨⟩
          rfl
  | changeSpeed speed =>
      unfold Pacer.remark
      by_cases same : speed = before.pace.speed
      · simp only [same, if_true]
        exact faithfullyTold_none rfl rfl rfl
      · simp only [same, if_false]
        exact ⟨rfl, rfl, nofun, rfl, rfl⟩
  | changeCapture | forget => exact faithfullyTold_none rfl rfl rfl

theorem FaithfullyTold.cyclesTold {before after : Pacer σ}
    {exchange : Exchange ε} {remark : Option Event}
    (told : FaithfullyTold before exchange after remark)
    (words : List Word) :
    before.cycleCount + Chip8.cyclesTold (before.telling words remark) =
      after.cycleCount := by
  rw [told.cycles, Chip8.cyclesTold,
    Pacer.filterMap_telling (fun _ _ => rfl)]
  cases remark.bind Event.cycles? <;> rfl

/-- What is told of a faithfully told exchange tallies. -/
theorem FaithfullyTold.tallies {before after : Pacer σ}
    {exchange : Exchange ε} {remark : Option Event}
    (told : FaithfullyTold before exchange after remark)
    (words : List Word) :
    Tallies before.cycleCount (before.telling words remark) := by
  have quiet : Chip8.cyclesTold (words.flatMap before.observe) = 0 := by
    rw [Chip8.cyclesTold, Pacer.filterMap_observed (fun _ _ => rfl)]
    rfl
  apply Tallies.append
  · apply tallies_of_noTotal
    intro event observed
    rcases Pacer.mem_observed observed with ⟨word, operation, rfl⟩
    rfl
  · rw [quiet]
    cases remark with
    | none => exact tallies_of_noTotal _ nofun
    | some event =>
        apply tallies_singleton
        intro total here
        rw [told.total total here, ← told.cyclesTold [], Nat.add_zero]
        rfl

/-- Besides its remark a faithfully told exchange has rows. -/
theorem FaithfullyTold.rows {before after : Pacer σ}
    {exchange : Exchange ε} {remark : Option Event}
    (told : FaithfullyTold before exchange after remark)
    (words : List Word) :
    (before.telling words remark).filterMap Event.row? =
      (before.rows words).map Instruction.told := by
  have none : remark.toList.filterMap Event.row? = [] := by
    cases remark with
    | none => rfl
    | some event => exact List.filterMap_cons_none told.row
  rw [Pacer.telling, List.filterMap_append, none, List.append_nil,
    Pacer.filterMap_row?_observed]

end Chip8
