import Chip8.Proofs.Machine.Traced
import Chip8.Proofs.Pacer.Cycles

/-!
# The ticks of a run

`tickResults` is what the ticks made by some commands come to, as written down
by the traced machine in the place of the machine itself.  Writing down is not
noticed: `perform_of_projects` says that machines which project to each other
are paced alike.

`tickResults_cons` splits the ticks of a run by its commands, and the lemmas
after it say which ticks each command makes.
-/

namespace Chip8

variable {σ τ ε : Type}

/-- The same pacer with the state of its machine seen through a function. -/
def Pacer.mapState (view : σ → τ) (pacer : Pacer σ) : Pacer τ where
  machineState := view pacer.machineState
  pace := pacer.pace
  config := pacer.config
  history := pacer.history
  cycleCount := pacer.cycleCount
  pulseCount := pacer.pulseCount

/-- The same outcome with the state of the machine seen through a function. -/
def Outcome.mapState (view : σ → τ) (outcome : Outcome σ ε) :
    Outcome τ ε where
  reply := outcome.reply
  pacer := outcome.pacer.mapState view
  events := outcome.events

namespace Pacer

@[simp]
theorem machineState_mapState (view : σ → τ) (pacer : Pacer σ) :
    (pacer.mapState view).machineState = view pacer.machineState :=
  rfl

@[simp]
theorem pulseCycles_mapState (view : σ → τ) (pacer : Pacer σ) :
    (pacer.mapState view).pulseCycles = pacer.pulseCycles :=
  rfl

@[simp]
theorem observe_mapState (view : σ → τ) (pacer : Pacer σ) :
    (pacer.mapState view).observe = pacer.observe :=
  rfl

/-! ## Pacing machines that project to each other -/

section Projections

variable {view : σ → τ} {inner : Machine σ ε} {outer : Machine τ ε}

theorem halt_of_projects (projects : Machine.Projects view inner outer)
    (pacer : Pacer σ) (cycles : Nat) (cause : ε) (events : List Event) :
    halt outer (pacer.mapState view) cycles cause events =
      (halt inner pacer cycles cause events).mapState view := by
  simp only [halt, projects.describe]
  rfl

theorem pulse_of_projects (projects : Machine.Projects view inner outer)
    (pacer : Pacer σ) :
    (pacer.mapState view).pulse outer =
      (pacer.pulse inner).mapState view := by
  by_cases running : pacer.pace.mode = .running
  · have runningView : (pacer.mapState view).pace.mode = .running :=
      running
    have stretches := projects.stretch pacer.pulseCycles pacer.machineState
    cases failure :
        (inner.stretch pacer.pulseCycles pacer.machineState).failure with
    | none =>
        have complete :
            (outer.stretch (pacer.mapState view).pulseCycles
              (pacer.mapState view).machineState).failure = none := by
          rw [pulseCycles_mapState, machineState_mapState, stretches]
          exact failure
        rw [pulse_of_complete runningView complete,
          pulse_of_complete running failure]
        simp only [pulseCycles_mapState, machineState_mapState,
          observe_mapState, stretches, projects.stretchEvents]
        rfl
    | some cause =>
        have failed :
            (outer.stretch (pacer.mapState view).pulseCycles
              (pacer.mapState view).machineState).failure =
                some cause := by
          rw [pulseCycles_mapState, machineState_mapState, stretches]
          exact failure
        rw [pulse_of_failure runningView failed,
          pulse_of_failure running failure]
        simp only [← halt_of_projects projects, pulseCycles_mapState,
          machineState_mapState, observe_mapState, stretches,
          projects.stretchEvents]
        rfl
  · have paused := paused_of_not_running running
    have pausedView : (pacer.mapState view).pace.mode = .paused := paused
    rw [pulse_of_paused pausedView, pulse_of_paused paused]
    rfl

theorem step_of_projects (projects : Machine.Projects view inner outer)
    (pacer : Pacer σ) :
    (pacer.mapState view).step outer = (pacer.step inner).mapState view := by
  by_cases running : pacer.pace.mode = .running
  · have runningView : (pacer.mapState view).pace.mode = .running :=
      running
    rw [step_of_running runningView, step_of_running running]
    rfl
  · have paused := paused_of_not_running running
    have pausedView : (pacer.mapState view).pace.mode = .paused := paused
    have tick := projects.tick pacer.machineState
    rw [step_of_paused pausedView, step_of_paused paused]
    cases result : (inner.tick pacer.machineState).result with
    | ok word =>
        have executed :
            (outer.tick (pacer.mapState view).machineState).result =
              .ok word := by
          rw [machineState_mapState, tick]
          exact result
        rw [singleCycle_of_ok executed, singleCycle_of_ok result]
        simp only [machineState_mapState, tick]
        rfl
    | error cause =>
        have failed :
            (outer.tick (pacer.mapState view).machineState).result =
              .error cause := by
          rw [machineState_mapState, tick]
          exact result
        rw [singleCycle_of_error failed, singleCycle_of_error result,
          ← halt_of_projects projects]
        simp only [machineState_mapState, tick]
        rfl

/-- Machines that project to each other are paced alike. -/
theorem perform_of_projects (projects : Machine.Projects view inner outer)
    (pacer : Pacer σ) (command : Command) :
    (pacer.mapState view).perform outer command =
      (pacer.perform inner command).mapState view := by
  cases command with
  | pulse => exact pulse_of_projects projects pacer
  | step => exact step_of_projects projects pacer
  | pause => rfl
  | resume => rfl
  | changeSpeed speed => rfl
  | changeCapture capture => rfl
  | forget => rfl

theorem runAll_of_projects (projects : Machine.Projects view inner outer)
    (pacer : Pacer σ) (commands : List Command) :
    (pacer.mapState view).runAll outer commands =
      (pacer.runAll inner commands).mapState view := by
  induction commands generalizing pacer with
  | nil => rfl
  | cons command rest ih =>
      rw [runAll_cons, runAll_cons, perform_of_projects projects]
      exact ih _

end Projections

/-! ## What the ticks of a run come to -/

/-- The pacer with nothing written down about the ticks of its machine. -/
def traced (pacer : Pacer σ) : Pacer (Traced σ ε) :=
  pacer.mapState Traced.start

/-- What the ticks made by some commands come to, the first one first. -/
def tickResults (machine : Machine σ ε) (pacer : Pacer σ)
    (commands : List Command) : List (Except ε Word) :=
  (pacer.traced.runAll machine.traced commands).machineState.results

/-- What the ticks made by one command come to. -/
def ticksOf (machine : Machine σ ε) (pacer : Pacer σ)
    (command : Command) : List (Except ε Word) :=
  pacer.tickResults machine [command]

theorem runAll_traced (machine : Machine σ ε) (pacer : Pacer σ)
    (commands : List Command) :
    (pacer.traced.runAll machine.traced commands).mapState Traced.state =
      pacer.runAll machine commands :=
  (runAll_of_projects machine.traced_projects pacer.traced commands).symm

/-- A pacer of a traced machine is one with results put before its trace. -/
theorem mapState_after_traced (pacer : Pacer (Traced σ ε)) :
    (pacer.mapState Traced.state).traced.mapState
        (Traced.after pacer.machineState.results) = pacer := by
  cases pacer
  simp only [traced, mapState, Traced.start, Traced.after,
    List.append_nil]

@[simp]
theorem tickResults_nil (machine : Machine σ ε) (pacer : Pacer σ) :
    pacer.tickResults machine [] = [] :=
  rfl

/-- The ticks of a run are those of its commands, one after another. -/
theorem tickResults_cons (machine : Machine σ ε) (pacer : Pacer σ)
    (command : Command) (rest : List Command) :
    pacer.tickResults machine (command :: rest) =
      pacer.ticksOf machine command ++
        (pacer.perform machine command).pacer.tickResults machine rest := by
  let next := (pacer.traced.perform machine.traced command).pacer
  have state :
      next.mapState Traced.state = (pacer.perform machine command).pacer :=
    runAll_traced machine pacer [command]
  calc
    _ = (next.runAll machine.traced rest).machineState.results := rfl
    _ = (((next.mapState Traced.state).traced.mapState
            (Traced.after next.machineState.results)).runAll
              machine.traced rest).machineState.results := by
        rw [mapState_after_traced]
    _ = _ := by
        rw [runAll_of_projects (machine.traced_projects_after _), state]
        rfl

/-! ## The ticks of each command -/

theorem ticksOf_pulse_of_paused {pacer : Pacer σ}
    (paused : pacer.pace.mode = .paused) (machine : Machine σ ε) :
    pacer.ticksOf machine .pulse = [] := by
  have pausedTraced :
      (pacer.traced : Pacer (Traced σ ε)).pace.mode = .paused := paused
  change
    (pacer.traced.pulse machine.traced).pacer.machineState.results = []
  rw [pulse_of_paused pausedTraced]
  rfl

/-- A running pulse makes the ticks of its stretch. -/
theorem ticksOf_pulse_of_running {pacer : Pacer σ}
    (running : pacer.pace.mode = .running) (machine : Machine σ ε) :
    pacer.ticksOf machine .pulse =
      (machine.stretch pacer.pulseCycles pacer.machineState).results := by
  have runningTraced :
      (pacer.traced : Pacer (Traced σ ε)).pace.mode = .running := running
  have stretches :=
    machine.stretch_traced pacer.pulseCycles
      (pacer.traced : Pacer (Traced σ ε)).machineState
  change
    (pacer.traced.pulse machine.traced).pacer.machineState.results = _
  cases failure :
      (machine.traced.stretch pacer.pulseCycles
        (pacer.traced : Pacer (Traced σ ε)).machineState).failure with
  | none =>
      rw [pulse_of_complete runningTraced failure]
      change (machine.traced.stretch pacer.pulseCycles _).state.results = _
      rw [stretches]
      rfl
  | some cause =>
      rw [pulse_of_failure runningTraced failure]
      change (machine.traced.stretch pacer.pulseCycles _).state.results = _
      rw [stretches]
      rfl

theorem ticksOf_step_of_running {pacer : Pacer σ}
    (running : pacer.pace.mode = .running) (machine : Machine σ ε) :
    pacer.ticksOf machine .step = [] := by
  have runningTraced :
      (pacer.traced : Pacer (Traced σ ε)).pace.mode = .running := running
  change (pacer.traced.step machine.traced).pacer.machineState.results = []
  rw [step_of_running runningTraced]
  rfl

/-- A step of a paused pacer makes one tick, whatever comes of it. -/
theorem ticksOf_step_of_paused {pacer : Pacer σ}
    (paused : pacer.pace.mode = .paused) (machine : Machine σ ε) :
    pacer.ticksOf machine .step =
      [(machine.tick pacer.machineState).result] := by
  have pausedTraced :
      (pacer.traced : Pacer (Traced σ ε)).pace.mode = .paused := paused
  change (pacer.traced.step machine.traced).pacer.machineState.results = _
  rw [step_of_paused pausedTraced]
  cases result :
      (machine.traced.tick
        (pacer.traced : Pacer (Traced σ ε)).machineState).result with
  | ok word =>
      rw [singleCycle_of_ok result]
      rfl
  | error cause =>
      rw [singleCycle_of_error result]
      rfl

end Pacer

end Chip8
