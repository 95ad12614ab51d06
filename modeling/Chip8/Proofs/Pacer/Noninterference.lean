import Chip8.Machine.Script
import Chip8.Proofs.Pacer.Cycles

/-!
# Diagnostics do not interfere

What a pacer records is for the eyes of its host only.  Two runs whose
configurations differ in capture, history capacity and dialect, and in which
the diagnostic commands stand in different places, execute the same cycles and
tell the host the same about them.

The argument is an unwinding.  `conduct` is the part of a pacer that execution
has to do with: `conduct_perform_of_diagnostic` says that a diagnostic command
leaves it alone, and `perform_congr` that every command acts on it, and
answers, in a way that depends on nothing else.
-/

namespace Chip8

variable {σ ε : Type}

/-! ## What is compared -/

/-- Whether a command has to do with execution and not with diagnostics. -/
def Command.drives : Command → Bool
  | .changeCapture _ => false
  | .forget => false
  | _ => true

/-- An instruction in which only the word and its operand fields count. -/
def Instruction.withoutOperation (instruction : Instruction) : Instruction :=
  { instruction with operation := .noOperation }

/-- A reply in which the operation of an executed word does not count. -/
def Reply.withoutOperation : Reply ε → Reply ε
  | .stepped instruction =>
      .stepped (instruction.map Instruction.withoutOperation)
  | reply => reply

/-- The part of a pacer that execution has to do with. -/
structure Conduct (σ : Type) where
  machineState : σ
  pace : Pace
  baseCycles : UInt32
  cycleCount : Nat
  pulseCount : Nat

/-- What a driving command does: how it is answered, and what it leaves. -/
structure Episode (σ ε : Type) where
  command : Command
  reply : Reply ε
  conduct : Conduct σ

namespace Pacer

/-- What a pacer has besides its diagnostics. -/
def conduct (pacer : Pacer σ) : Conduct σ where
  machineState := pacer.machineState
  pace := pacer.pace
  baseCycles := pacer.config.baseCycles
  cycleCount := pacer.cycleCount
  pulseCount := pacer.pulseCount

/-- What the driving commands among some commands do, one after another. -/
def episodes (machine : Machine σ ε) (pacer : Pacer σ)
    (commands : List Command) : List (Episode σ ε) :=
  ((commands.zip (pacer.outcomes machine commands)).filter
    fun (command, _) => command.drives).map
      fun (command, outcome) =>
        ⟨command, outcome.reply.withoutOperation, outcome.pacer.conduct⟩

theorem episodes_cons_of_drives (machine : Machine σ ε) (pacer : Pacer σ)
    {command : Command} (drives : command.drives = true)
    (rest : List Command) :
    pacer.episodes machine (command :: rest) =
      let outcome := pacer.perform machine command
      ⟨command, outcome.reply.withoutOperation, outcome.pacer.conduct⟩ ::
        outcome.pacer.episodes machine rest := by
  rw [episodes, outcomes, List.zip_cons_cons, List.filter_cons,
    if_pos drives]
  rfl

theorem episodes_cons_of_diagnostic (machine : Machine σ ε)
    (pacer : Pacer σ) {command : Command}
    (diagnostic : ¬ command.drives = true) (rest : List Command) :
    pacer.episodes machine (command :: rest) =
      (pacer.perform machine command).pacer.episodes machine rest := by
  rw [episodes, outcomes, List.zip_cons_cons, List.filter_cons,
    if_neg diagnostic]
  rfl

/-! ## One command -/

/-- A diagnostic command leaves the conduct alone. -/
theorem conduct_perform_of_diagnostic (machine : Machine σ ε)
    (pacer : Pacer σ) {command : Command}
    (diagnostic : ¬ command.drives = true) :
    (pacer.perform machine command).pacer.conduct = pacer.conduct := by
  cases command with
  | changeCapture capture => rfl
  | forget => rfl
  | pulse | step | pause | resume | changeSpeed =>
      exact absurd rfl diagnostic

section Congruence

variable {left right : Pacer σ} (same : left.conduct = right.conduct)
include same

theorem machineState_congr : left.machineState = right.machineState :=
  congrArg Conduct.machineState same

theorem pace_congr : left.pace = right.pace :=
  congrArg Conduct.pace same

theorem pulseCycles_congr : left.pulseCycles = right.pulseCycles := by
  have baseCycles : left.config.baseCycles = right.config.baseCycles :=
    congrArg Conduct.baseCycles same
  rw [pulseCycles, pulseCycles, pace_congr same, baseCycles]

theorem conduct_countPulse_congr :
    left.countPulse.conduct = right.countPulse.conduct :=
  congrArg
    (fun conduct => { conduct with pulseCount := conduct.pulseCount + 1 })
    same

theorem conduct_withMode_congr (mode : Mode) :
    (left.withMode mode).conduct = (right.withMode mode).conduct :=
  congrArg
    (fun conduct => { conduct with pace := { conduct.pace with mode } })
    same

/-- Whatever the history does with some words, they are counted alike. -/
theorem conduct_absorb_congr (words : List Word) (state : σ) :
    (left.absorb words state).conduct =
      (right.absorb words state).conduct :=
  congrArg
    (fun conduct =>
      { conduct with
        machineState := state
        cycleCount := conduct.cycleCount + words.length })
    same

theorem pulse_congr (machine : Machine σ ε) :
    (left.pulse machine).reply = (right.pulse machine).reply ∧
      (left.pulse machine).pacer.conduct =
        (right.pulse machine).pacer.conduct := by
  have state := machineState_congr same
  have cycles := pulseCycles_congr same
  have pace := pace_congr same
  have counted := conduct_countPulse_congr same
  by_cases running : right.pace.mode = .running
  · have runningLeft : left.pace.mode = .running := by rw [pace, running]
    cases failure :
        (machine.stretch right.pulseCycles right.machineState).failure with
    | none =>
        have complete :
            (machine.stretch left.pulseCycles left.machineState).failure =
              none := by
          rw [state, cycles, failure]
        rw [pulse_of_complete runningLeft complete,
          pulse_of_complete running failure, state, cycles]
        exact ⟨rfl, conduct_absorb_congr counted _ _⟩
    | some cause =>
        have failed :
            (machine.stretch left.pulseCycles left.machineState).failure =
              some cause := by
          rw [state, cycles, failure]
        rw [pulse_of_failure runningLeft failed,
          pulse_of_failure running failure, state, cycles]
        have absorbed := conduct_absorb_congr counted
        exact ⟨rfl, conduct_withMode_congr (absorbed _ _) .paused⟩
  · have paused := paused_of_not_running running
    have pausedLeft : left.pace.mode = .paused := by rw [pace, paused]
    rw [pulse_of_paused pausedLeft, pulse_of_paused paused]
    exact ⟨rfl, counted⟩

/-- A step answers alike up to the operation, which the dialect decides. -/
theorem step_congr (machine : Machine σ ε) :
    (left.step machine).reply.withoutOperation =
        (right.step machine).reply.withoutOperation ∧
      (left.step machine).pacer.conduct =
        (right.step machine).pacer.conduct := by
  have state := machineState_congr same
  have pace := pace_congr same
  by_cases running : right.pace.mode = .running
  · have runningLeft : left.pace.mode = .running := by rw [pace, running]
    rw [step_of_running runningLeft, step_of_running running]
    exact ⟨rfl, same⟩
  · have paused := paused_of_not_running running
    have pausedLeft : left.pace.mode = .paused := by rw [pace, paused]
    rw [step_of_paused pausedLeft, step_of_paused paused]
    cases result : (machine.tick right.machineState).result with
    | ok word =>
        have executed :
            (machine.tick left.machineState).result = .ok word := by
          rw [state, result]
        rw [singleCycle_of_ok executed, singleCycle_of_ok result, state]
        exact ⟨rfl, conduct_absorb_congr same _ _⟩
    | error cause =>
        have failed :
            (machine.tick left.machineState).result = .error cause := by
          rw [state, result]
        rw [singleCycle_of_error failed, singleCycle_of_error result, state]
        have absorbed := conduct_absorb_congr same
        exact ⟨rfl, conduct_withMode_congr (absorbed _ _) .paused⟩

/-- What a command does to the conduct depends on the conduct alone. -/
theorem perform_congr (machine : Machine σ ε) (command : Command) :
    (left.perform machine command).reply.withoutOperation =
        (right.perform machine command).reply.withoutOperation ∧
      (left.perform machine command).pacer.conduct =
        (right.perform machine command).pacer.conduct := by
  cases command with
  | pulse =>
      rcases pulse_congr same machine with ⟨reply, conduct⟩
      exact ⟨congrArg Reply.withoutOperation reply, conduct⟩
  | step => exact step_congr same machine
  | pause => exact ⟨rfl, conduct_withMode_congr same .paused⟩
  | resume => exact ⟨rfl, conduct_withMode_congr same .running⟩
  | changeSpeed speed =>
      refine ⟨rfl, ?_⟩
      exact congrArg
        (fun conduct =>
          { conduct with pace := { conduct.pace with speed } })
        same
  | changeCapture capture => exact ⟨rfl, same⟩
  | forget => exact ⟨rfl, same⟩

/-! ## Whole runs -/

/-- A run does what its driving commands do from the same conduct. -/
theorem episodes_eq_of_drives (machine : Machine σ ε)
    (commands : List Command) :
    left.episodes machine commands =
        right.episodes machine (commands.filter Command.drives) ∧
      (left.runAll machine commands).conduct =
        (right.runAll machine (commands.filter Command.drives)).conduct := by
  induction commands generalizing left right with
  | nil => exact ⟨rfl, same⟩
  | cons command rest ih =>
      by_cases drives : command.drives = true
      · rcases perform_congr same machine command with ⟨reply, conduct⟩
        rcases ih conduct with ⟨later, final⟩
        rw [List.filter_cons_of_pos drives, runAll_cons, runAll_cons,
          episodes_cons_of_drives machine left drives,
          episodes_cons_of_drives machine right drives]
        refine ⟨?_, final⟩
        simp only [reply, conduct, later]
      · have unchanged :=
          conduct_perform_of_diagnostic machine left drives
        rw [List.filter_cons_of_neg drives, runAll_cons,
          episodes_cons_of_diagnostic machine left drives]
        exact ih (unchanged.trans same)

end Congruence

/--
Diagnostics do not interfere with execution.  Take two runs of a machine from
the same state whose configurations have the same base cycles and initial
speed, and whose commands are the same but for the diagnostic ones.  Their
driving commands are answered alike, up to the operation that the dialect
gives to a stepped word, and leave the same state of the machine, pace and
counts; and so do the runs as a whole.
-/
theorem diagnostics_do_not_interfere (machine : Machine σ ε) (state : σ)
    (first second : Config) (commands others : List Command)
    (baseCycles : first.baseCycles = second.baseCycles)
    (initialSpeed : first.initialSpeed = second.initialSpeed)
    (driving :
      commands.filter Command.drives = others.filter Command.drives) :
    let left := Pacer.start first state
    let right := Pacer.start second state
    left.episodes machine commands = right.episodes machine others ∧
      (left.runAll machine commands).conduct =
        (right.runAll machine others).conduct := by
  intro left right
  have same : left.conduct = right.conduct := by
    simp only [left, right, conduct, start, baseCycles, initialSpeed]
  have leftRun := episodes_eq_of_drives same machine commands
  have rightRun :=
    episodes_eq_of_drives (rfl : right.conduct = right.conduct) machine
      others
  rw [driving] at leftRun
  exact ⟨leftRun.1.trans rightRun.1.symm, leftRun.2.trans rightRun.2.symm⟩

/--
A run that records in one dialect and a run that records nothing, on a machine
whose third tick fails.
-/
theorem diagnostics_do_not_interfere_third_tick :
    let machine := Script.machine ⟨[⟨0x00E0⟩, ⟨0x0123⟩], [3], "fault"⟩
    let silent : Config :=
      { capture := false, historyCapacity := 0, dialect := ⟨.lowNibble⟩ }
    let commands : List Command :=
      [.pulse, .forget, .step, .changeCapture false, .step]
    let others : List Command :=
      [.changeCapture true, .pulse, .step, .step, .forget]
    let left := Pacer.start .standard 0
    let right := Pacer.start silent 0
    commands.filter Command.drives = others.filter Command.drives ∧
      left.episodes machine commands = right.episodes machine others ∧
      (left.runAll machine commands).conduct =
        (right.runAll machine others).conduct := by
  intro machine silent commands others left right
  have driving :
      commands.filter Command.drives = others.filter Command.drives := by
    decide
  exact ⟨driving,
    diagnostics_do_not_interfere machine 0 .standard silent commands others
      rfl rfl driving⟩

end Pacer

end Chip8
