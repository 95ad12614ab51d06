import Chip8.Proofs.Machine.Muted
import Chip8.Proofs.Pacer.Transition

/-!
# What a pacer tells of a command

The events of a command come from its ticks and from the pacer.  Of a muted
machine only the pacer is heard: it observes the executed words, and then adds
at most one remark on the command as a whole.

`perform_muted` says that muting changes nothing but the events, and
`events_perform_muted` what is heard then.
-/

namespace Chip8

variable {σ ε : Type}

/-- Two outcomes that differ only in events which the first one leaves out. -/
structure Outcome.Mutes (muted loud : Outcome σ ε) : Prop where
  reply : muted.reply = loud.reply
  pacer : muted.pacer = loud.pacer
  events : muted.events.Sublist loud.events

theorem Outcome.Mutes.refl (outcome : Outcome σ ε) :
    outcome.Mutes outcome where
  reply := rfl
  pacer := rfl
  events := .refl _

theorem executedWords_results (stretch : Stretch σ ε) :
    executedWords stretch.results = stretch.words := by
  rw [Stretch.results, executedWords_append, executedWords_map_ok]
  cases stretch.failure with
  | none => exact List.append_nil _
  | some cause => exact List.append_nil _

namespace Pacer

/-! ## Pacing muted machines -/

/-- The events before the one that tells of a failure can be muted. -/
theorem halt_muted (machine : Machine σ ε) (pacer : Pacer σ)
    (cycles : Nat) (cause : ε) {fewer events : List Event}
    (sublist : fewer.Sublist events) :
    (halt machine.muted pacer cycles cause fewer).Mutes
      (halt machine pacer cycles cause events) where
  reply := rfl
  pacer := rfl
  events := sublist.append_right _

theorem pulse_muted (machine : Machine σ ε) (pacer : Pacer σ) :
    (pacer.pulse machine.muted).Mutes (pacer.pulse machine) := by
  have stretches :=
    machine.stretch_muted pacer.pulseCycles pacer.machineState
  have fewer :=
    machine.stretchEvents_muted_sublist pacer.observe pacer.pulseCycles
      pacer.machineState
  by_cases running : pacer.pace.mode = .running
  · cases failure :
        (machine.stretch pacer.pulseCycles pacer.machineState).failure with
    | none =>
        have complete := (congrArg Stretch.failure stretches).trans failure
        rw [pulse_of_complete running complete,
          pulse_of_complete running failure]
        simp only [stretches]
        exact ⟨rfl, rfl, fewer.append_right _⟩
    | some cause =>
        have failed := (congrArg Stretch.failure stretches).trans failure
        rw [pulse_of_failure running failed,
          pulse_of_failure running failure]
        simp only [stretches]
        exact halt_muted machine _ _ cause fewer
  · have paused := paused_of_not_running running
    rw [pulse_of_paused paused, pulse_of_paused paused]
    exact .refl _

theorem step_muted (machine : Machine σ ε) (pacer : Pacer σ) :
    (pacer.step machine.muted).Mutes (pacer.step machine) := by
  by_cases running : pacer.pace.mode = .running
  · rw [step_of_running running, step_of_running running]
    exact .refl _
  · have paused := paused_of_not_running running
    rw [step_of_paused paused, step_of_paused paused]
    cases result : (machine.tick pacer.machineState).result with
    | ok word =>
        have executed :
            (machine.muted.tick pacer.machineState).result = .ok word :=
          result
        rw [singleCycle_of_ok executed, singleCycle_of_ok result]
        refine ⟨rfl, rfl, ?_⟩
        apply List.Sublist.append_right
        exact List.sublist_append_right _ _
    | error cause =>
        have failed :
            (machine.muted.tick pacer.machineState).result = .error cause :=
          result
        rw [singleCycle_of_error failed, singleCycle_of_error result]
        exact halt_muted machine _ 0 cause (List.nil_sublist _)

/-- Muting a machine takes events away and changes nothing else. -/
theorem perform_muted (machine : Machine σ ε) (pacer : Pacer σ)
    (command : Command) :
    (pacer.perform machine.muted command).Mutes
      (pacer.perform machine command) := by
  cases command with
  | pulse => exact pulse_muted machine pacer
  | step => exact step_muted machine pacer
  | pause | resume | changeSpeed | changeCapture | forget => exact .refl _

/-! ## Remarks -/

/-- The event that tells of a command as a whole, if there is one. -/
def remark (describe : ε → String) (before : Pacer σ) :
    Command → Reply ε → Option Event
  | _, .failed failure =>
      some (.machineFailed failure.cycles (describe failure.cause))
  | .pulse, .pulsed ⟨.paused, _, _⟩ =>
      some (.pulseIgnored (before.pulseCount + 1))
  | .pulse, .pulsed ⟨.running, _, executed⟩ =>
      some (.pulseComplete (before.pulseCount + 1) executed)
  | .step, .stepped none => some .stepIgnored
  | .step, .stepped (some ⟨word, operation, _, _, _, _, _⟩) =>
      some (.stepped word operation (before.cycleCount + 1))
  | .pause, _ =>
      match before.pace.mode with
      | .running => some (.paused before.cycleCount)
      | .paused => none
  | .resume, _ =>
      match before.pace.mode with
      | .running => none
      | .paused => some (.resumed before.cycleCount)
  | .changeSpeed speed, _ =>
      if speed = before.pace.speed then
        none
      else
        some (.speedChanged before.pace.speed speed)
  | _, _ => none

/-- The events by which executed words and a remark are told. -/
def telling (before : Pacer σ) (words : List Word) (remark : Option Event) :
    List Event :=
  words.flatMap before.observe ++ remark.toList

theorem events_pulse_muted (machine : Machine σ ε) (before : Pacer σ) :
    (before.pulse machine.muted).events =
      before.telling (executedWords (before.ticksOf machine .pulse))
        (before.remark machine.describe .pulse
          (before.pulse machine).reply) := by
  have stretches :=
    machine.stretch_muted before.pulseCycles before.machineState
  have events :=
    machine.stretchEvents_muted before.observe before.pulseCycles
      before.machineState
  by_cases running : before.pace.mode = .running
  · rw [ticksOf_pulse_of_running running, executedWords_results]
    cases failure :
        (machine.stretch before.pulseCycles before.machineState).failure with
    | none =>
        have complete := (congrArg Stretch.failure stretches).trans failure
        rw [pulse_of_complete running complete,
          pulse_of_complete running failure]
        simp only [events]
        rfl
    | some cause =>
        have failed := (congrArg Stretch.failure stretches).trans failure
        rw [pulse_of_failure running failed,
          pulse_of_failure running failure]
        simp only [events, stretches]
        rfl
  · have paused := paused_of_not_running running
    rw [ticksOf_pulse_of_paused paused, pulse_of_paused paused,
      pulse_of_paused paused]
    rfl

theorem events_step_muted (machine : Machine σ ε) (before : Pacer σ) :
    (before.step machine.muted).events =
      before.telling (executedWords (before.ticksOf machine .step))
        (before.remark machine.describe .step
          (before.step machine).reply) := by
  by_cases running : before.pace.mode = .running
  · rw [ticksOf_step_of_running running, step_of_running running,
      step_of_running running]
    rfl
  · have paused := paused_of_not_running running
    rw [ticksOf_step_of_paused paused, step_of_paused paused,
      step_of_paused paused]
    cases result : (machine.tick before.machineState).result with
    | ok word =>
        have executed :
            (machine.muted.tick before.machineState).result = .ok word :=
          result
        rw [singleCycle_of_ok executed, singleCycle_of_ok result, telling]
        change before.observe word ++ _ = (before.observe word ++ []) ++ _
        rw [List.append_nil]
        rfl
    | error cause =>
        have failed :
            (machine.muted.tick before.machineState).result = .error cause :=
          result
        rw [singleCycle_of_error failed, singleCycle_of_error result]
        rfl

/-- A pacer tells of the executed words, and then of the command. -/
theorem events_perform_muted (machine : Machine σ ε) (before : Pacer σ)
    (command : Command) :
    (before.perform machine.muted command).events =
      before.telling (executedWords (before.ticksOf machine command))
        (before.remark machine.describe command
          (before.perform machine command).reply) := by
  cases command with
  | pulse => exact events_pulse_muted machine before
  | step => exact events_step_muted machine before
  | pause =>
      cases mode : before.pace.mode with
      | running =>
          simp only [perform, pause, isPaused_of_running mode, remark, mode]
          rfl
      | paused =>
          simp only [perform, pause, isPaused_of_paused mode, remark, mode]
          rfl
  | resume =>
      cases mode : before.pace.mode with
      | running =>
          simp only [perform, resume, isPaused_of_running mode, remark, mode]
          rfl
      | paused =>
          simp only [perform, resume, isPaused_of_paused mode, remark, mode]
          rfl
  | changeSpeed speed =>
      simp only [perform, changeSpeed, remark]
      split <;> rfl
  | changeCapture | forget => rfl

end Pacer

end Chip8
