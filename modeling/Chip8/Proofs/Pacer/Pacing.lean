import Chip8.Machine.Script
import Chip8.Proofs.Machine.Attempt
import Chip8.Proofs.Pacer.Accounting
import Chip8.Proofs.Pacer.Capture

/-!
# Pacing does not change what is executed

However a host groups the ticks of a machine into pulses and steps, at
whatever speeds, and wherever failures interrupt them: what is executed
depends on the number of ticks only.

Every command makes attempts and nothing else, by `attempt_ticksOf`, and so
does every run, by `attempt_tickResults`.  The counted cycles and the history
are then read off the results of the attempts.
-/

namespace Chip8

variable {σ ε : Type}

/-- Whether a command neither stops the capture nor forgets the history. -/
def Command.keepsRecord : Command → Bool
  | .changeCapture capture => capture
  | .forget => false
  | _ => true

theorem Tape.feed_of_keepsRecord {tape : Tape}
    (capturing : tape.capture = true) {command : Command}
    (kept : command.keepsRecord = true)
    (results : List (Except ε Word)) :
    tape.feed command results =
      ⟨true, tape.words ++ executedWords results⟩ := by
  rcases tape with ⟨capture, words⟩
  cases capturing
  cases command with
  | forget => cases kept
  | changeCapture other =>
      cases kept
      rfl
  | pulse | step | pause | resume | changeSpeed => rfl

namespace Pacer

/-! ## Commands and runs as attempts -/

theorem attempt_ticksOf_pulse (machine : Machine σ ε) (pacer : Pacer σ) :
    machine.attempt (pacer.ticksOf machine .pulse).length
        pacer.machineState =
      ⟨(pacer.pulse machine).pacer.machineState,
        pacer.ticksOf machine .pulse⟩ := by
  by_cases running : pacer.pace.mode = .running
  · rw [ticksOf_pulse_of_running running, Machine.attempt_of_stretch]
    cases failure :
        (machine.stretch pacer.pulseCycles pacer.machineState).failure with
    | none => rw [pulse_of_complete running failure]; rfl
    | some cause => rw [pulse_of_failure running failure]; rfl
  · have paused := paused_of_not_running running
    rw [ticksOf_pulse_of_paused paused, pulse_of_paused paused]
    rfl

theorem attempt_ticksOf_step (machine : Machine σ ε) (pacer : Pacer σ) :
    machine.attempt (pacer.ticksOf machine .step).length
        pacer.machineState =
      ⟨(pacer.step machine).pacer.machineState,
        pacer.ticksOf machine .step⟩ := by
  by_cases running : pacer.pace.mode = .running
  · rw [ticksOf_step_of_running running, step_of_running running]
    rfl
  · have paused := paused_of_not_running running
    rw [ticksOf_step_of_paused paused, step_of_paused paused]
    change machine.attempt 1 pacer.machineState = _
    rw [Machine.attempt_one]
    cases result : (machine.tick pacer.machineState).result with
    | ok word => rw [singleCycle_of_ok result]; rfl
    | error cause => rw [singleCycle_of_error result]; rfl

/-- Whatever a command does to the machine, it does by attempts. -/
theorem attempt_ticksOf (machine : Machine σ ε) (pacer : Pacer σ)
    (command : Command) :
    machine.attempt (pacer.ticksOf machine command).length
        pacer.machineState =
      ⟨(pacer.perform machine command).pacer.machineState,
        pacer.ticksOf machine command⟩ := by
  cases command with
  | pulse => exact attempt_ticksOf_pulse machine pacer
  | step => exact attempt_ticksOf_step machine pacer
  | pause | resume | changeSpeed | changeCapture | forget => rfl

/-- A run comes to attempts, as many as it has made ticks. -/
theorem attempt_tickResults (machine : Machine σ ε) (pacer : Pacer σ)
    (commands : List Command) :
    machine.attempt (pacer.tickResults machine commands).length
        pacer.machineState =
      ⟨(pacer.runAll machine commands).machineState,
        pacer.tickResults machine commands⟩ := by
  induction commands generalizing pacer with
  | nil => rfl
  | cons command rest ih =>
      rw [tickResults_cons, List.length_append, Machine.attempt_add,
        attempt_ticksOf]
      simp only [ih, runAll_cons, Traced.after]

/-- Runs from the same state are told apart by their numbers of ticks only. -/
theorem run_of_length_eq (machine : Machine σ ε) {left right : Pacer σ}
    (state : left.machineState = right.machineState)
    {commands others : List Command}
    (lengths :
      (left.tickResults machine commands).length =
        (right.tickResults machine others).length) :
    left.tickResults machine commands = right.tickResults machine others ∧
      (left.runAll machine commands).machineState =
        (right.runAll machine others).machineState := by
  have leftTrace := attempt_tickResults machine left commands
  have rightTrace := attempt_tickResults machine right others
  rw [lengths, state, rightTrace, Traced.mk.injEq] at leftTrace
  rcases leftTrace with ⟨states, results⟩
  exact ⟨results.symm, states.symm⟩

/-! ## Counts and history as results of attempts -/

theorem cycleCount_runAll_eq_length (machine : Machine σ ε)
    (pacer : Pacer σ) (commands : List Command) :
    (pacer.runAll machine commands).cycleCount =
      pacer.cycleCount +
        (executedWords (pacer.tickResults machine commands)).length := by
  induction commands generalizing pacer with
  | nil => rfl
  | cons command rest ih =>
      have counted := (transition_perform machine pacer command).cycleCount_eq
      rw [runAll_cons, ih, counted, tickResults_cons, executedWords_append,
        List.length_append, Nat.add_assoc]

/-- A tape that is kept running gets all executed words. -/
theorem words_feedAll_of_keepsRecord (machine : Machine σ ε)
    (pacer : Pacer σ) {tape : Tape} (capturing : tape.capture = true)
    {commands : List Command}
    (keeping : ∀ command ∈ commands, command.keepsRecord = true) :
    (Tape.feedAll machine pacer tape commands).words =
      tape.words ++ executedWords (pacer.tickResults machine commands) := by
  induction commands generalizing pacer tape with
  | nil => exact (List.append_nil tape.words).symm
  | cons command rest ih =>
      rcases List.forall_mem_cons.mp keeping with ⟨kept, keptLater⟩
      rw [Tape.feedAll, Tape.feed_of_keepsRecord capturing kept,
        ih _ rfl keptLater, tickResults_cons, executedWords_append,
        List.append_assoc]

/-- A history that is kept shows the newest of all executed words. -/
theorem history_runAll_of_keepsRecord (machine : Machine σ ε)
    (config : Config) (state : σ) (capturing : config.capture = true)
    {commands : List Command}
    (keeping : ∀ command ∈ commands, command.keepsRecord = true) :
    ((start config state).runAll machine commands).history.toList =
      ((executedWords
        ((start config state).tickResults machine commands)).map
          (Instruction.decode config.dialect)).reverse.take
            config.historyCapacity.toNat := by
  have blank : Tape.Matches ⟨config.capture, []⟩ (start config state) :=
    ⟨rfl, List.take_nil.symm⟩
  have recorded := (tape_matches_runAll machine blank commands).toList_eq
  have decode :
      ((start config state).runAll machine commands).decode =
        Instruction.decode config.dialect :=
    decode_runAll machine (start config state) commands
  rw [recorded, capacity_history_runAll, decode,
    words_feedAll_of_keepsRecord machine _ capturing keeping]
  rfl

/--
Pacing does not change what is executed.  Two runs of a machine from the same
state that keep their record, in the same dialect and with the same capacity,
may differ in base cycles, speeds and commands as they like: if they have made
the same number of ticks, by the counted cycles and the reported failures,
then they have the same state of the machine, the same count of cycles and the
same history.
-/
theorem execution_independent_of_pacing (machine : Machine σ ε)
    (state : σ) (first second : Config) (commands others : List Command)
    (capturing : first.capture = true ∧ second.capture = true)
    (capacity : first.historyCapacity = second.historyCapacity)
    (dialect : first.dialect = second.dialect)
    (keeping :
      ∀ command ∈ commands ++ others, command.keepsRecord = true)
    (ticks :
      let left := Pacer.start first state
      let right := Pacer.start second state
      (left.runAll machine commands).cycleCount +
          (left.exchanges machine commands).countP Exchange.failed =
        (right.runAll machine others).cycleCount +
          (right.exchanges machine others).countP Exchange.failed) :
    let left := (Pacer.start first state).runAll machine commands
    let right := (Pacer.start second state).runAll machine others
    left.machineState = right.machineState ∧
      left.cycleCount = right.cycleCount ∧
      left.history = right.history := by
  intro left right
  rcases List.forall_mem_append.mp keeping with ⟨keptLeft, keptRight⟩
  have leftTicks := length_tickResults machine (.start first state) commands
  have rightTicks := length_tickResults machine (.start second state) others
  have lengths :=
    Nat.add_left_cancel (leftTicks.trans (ticks.trans rightTicks.symm))
  have begun :
      (start first state).machineState =
        (start second state).machineState := rfl
  rcases run_of_length_eq machine begun lengths with ⟨results, states⟩
  refine ⟨states, ?_, Window.ext ?_ ?_⟩
  · have leftCycles :=
      cycleCount_runAll_eq_length machine (.start first state) commands
    have rightCycles :=
      cycleCount_runAll_eq_length machine (.start second state) others
    rw [results] at leftCycles
    exact leftCycles.trans rightCycles.symm
  · have leftCapacity :=
      capacity_history_runAll machine (.start first state) commands
    have rightCapacity :=
      capacity_history_runAll machine (.start second state) others
    refine leftCapacity.trans (Eq.trans ?_ rightCapacity.symm)
    exact congrArg UInt64.toNat capacity
  · have leftRows :=
      history_runAll_of_keepsRecord machine first state capturing.1 keptLeft
    have rightRows :=
      history_runAll_of_keepsRecord machine second state capturing.2
        keptRight
    rw [results, capacity, dialect] at leftRows
    exact leftRows.trans rightRows.symm

/--
A pulse whose third tick fails, and three steps at another speed of which the
last one fails.
-/
theorem execution_independent_of_pacing_third_tick :
    let machine := Script.machine ⟨[⟨0x00E0⟩, ⟨0x1200⟩], [3], "fault"⟩
    let slow : Config := { baseCycles := 1, initialSpeed := .half }
    let commands : List Command := [.pulse]
    let others : List Command :=
      [.pause, .step, .changeSpeed .double, .step, .step]
    let left := (Pacer.start .standard 0).runAll machine commands
    let right := (Pacer.start slow 0).runAll machine others
    left.cycleCount = 2 ∧
      left.machineState = right.machineState ∧
      left.cycleCount = right.cycleCount ∧
      left.history = right.history := by
  intro machine slow commands others left right
  refine ⟨by decide, ?_⟩
  exact execution_independent_of_pacing machine 0 .standard slow commands
    others ⟨rfl, rfl⟩ rfl rfl (by decide) (by decide)

end Pacer

end Chip8
