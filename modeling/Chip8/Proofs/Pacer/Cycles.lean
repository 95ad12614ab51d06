import Chip8.Pacer.Command
import Chip8.Proofs.Machine.Stretch

/-!
# Cycles in stretches

The cycles of a pulse are executed one by one, and so are steps.  Both come to
a stretch of ticks whose words are absorbed: `executeCycles_eq` for the cycles
of a pulse, `singleCycle_of_ok` and `singleCycle_of_error` for a step.

`pulse_of_paused`, `pulse_of_complete` and `pulse_of_failure` are the three
ways in which a pulse can end.
-/

namespace Chip8

namespace Pacer

variable {σ ε : Type}

/-! ## Modes -/

theorem isPaused_of_paused {pacer : Pacer σ}
    (paused : pacer.pace.mode = .paused) : pacer.isPaused = true := by
  rw [isPaused, Pace.isPaused, paused]
  rfl

theorem isPaused_of_running {pacer : Pacer σ}
    (running : pacer.pace.mode = .running) : pacer.isPaused = false := by
  rw [isPaused, Pace.isPaused, running]
  rfl

theorem paused_of_not_running {pacer : Pacer σ}
    (other : ¬ pacer.pace.mode = .running) :
    pacer.pace.mode = .paused := by
  cases mode : pacer.pace.mode with
  | running => exact (other mode).elim
  | paused => rfl

theorem not_running_of_paused {pacer : Pacer σ}
    (paused : pacer.pace.mode = .paused) :
    ¬ pacer.pace.mode = .running := by
  intro running
  rw [paused] at running
  cases running

/-! ## Absorbing words -/

/-- The rows that some words add to the history, the oldest first. -/
def rows (pacer : Pacer σ) (words : List Word) : List Instruction :=
  if pacer.config.capture then words.map pacer.decode else []

@[simp]
theorem rows_nil (pacer : Pacer σ) : pacer.rows [] = [] := by
  unfold rows
  split <;> rfl

theorem rows_append (pacer : Pacer σ) (older newer : List Word) :
    pacer.rows (older ++ newer) = pacer.rows older ++ pacer.rows newer := by
  unfold rows
  split
  · exact List.map_append
  · rfl

/-- Account for executed words, the oldest first. -/
def absorb (pacer : Pacer σ) (words : List Word) (state : σ) : Pacer σ :=
  { pacer with
    machineState := state
    cycleCount := pacer.cycleCount + words.length
    history := (pacer.rows words).foldl Window.push pacer.history }

@[simp]
theorem machineState_absorb (pacer : Pacer σ) (words : List Word)
    (state : σ) : (pacer.absorb words state).machineState = state :=
  rfl

theorem capacity_history_absorb (pacer : Pacer σ) (words : List Word)
    (state : σ) :
    (pacer.absorb words state).history.capacity =
      pacer.history.capacity :=
  Window.capacity_foldl_push pacer.history (pacer.rows words)

theorem toList_history_absorb (pacer : Pacer σ) (words : List Word)
    (state : σ) :
    (pacer.absorb words state).history.toList =
      ((pacer.rows words).reverse ++ pacer.history.toList).take
        pacer.history.capacity :=
  Window.toList_foldl_push pacer.history (pacer.rows words)

theorem absorb_nil (pacer : Pacer σ) (state : σ) :
    pacer.absorb [] state = { pacer with machineState := state } := by
  rw [absorb, rows_nil]
  rfl

/-- Words can be absorbed in portions. -/
theorem absorb_absorb (pacer : Pacer σ) (older newer : List Word)
    (between state : σ) :
    (pacer.absorb older between).absorb newer state =
      pacer.absorb (older ++ newer) state := by
  rw [absorb, absorb, absorb, rows_append, List.foldl_append,
    List.length_append, ← Nat.add_assoc]
  rfl

theorem account_eq_absorb (pacer : Pacer σ) (word : Word) (state : σ) :
    pacer.account word state = pacer.absorb [word] state := by
  rw [account, absorb, rows]
  split <;> rfl

theorem absorb_withMode (pacer : Pacer σ) (mode : Mode)
    (words : List Word) (state : σ) :
    (pacer.withMode mode).absorb words state =
      (pacer.absorb words state).withMode mode :=
  rfl

/-! ## The other changes of a pacer -/

@[simp]
theorem mode_withMode (pacer : Pacer σ) (mode : Mode) :
    (pacer.withMode mode).pace.mode = mode :=
  rfl

theorem withMode_self {pacer : Pacer σ} {mode : Mode}
    (same : pacer.pace.mode = mode) : pacer.withMode mode = pacer := by
  subst same
  rfl

/-! ## Cycles and steps -/

theorem executeCycle_of_ok {machine : Machine σ ε} {pacer : Pacer σ}
    {word : Word}
    (executed : (machine.tick pacer.machineState).result = .ok word) :
    pacer.executeCycle machine =
      { result := .ok word
        pacer :=
          pacer.absorb [word] (machine.tick pacer.machineState).state
        events :=
          (machine.tick pacer.machineState).events ++
            pacer.observe word } := by
  simp only [executeCycle, executed, account_eq_absorb]

theorem executeCycle_of_error {machine : Machine σ ε} {pacer : Pacer σ}
    {cause : ε}
    (failed : (machine.tick pacer.machineState).result = .error cause) :
    pacer.executeCycle machine =
      { result := .error cause
        pacer := pacer.absorb [] (machine.tick pacer.machineState).state
        events := (machine.tick pacer.machineState).events } := by
  simp only [executeCycle, failed, absorb_nil]

/--
Cycles one by one execute a stretch and absorb its words.  Absorbing a word
changes neither the configuration nor the way words are observed, so the rest
is observed alike.
-/
theorem executeCycles_eq (machine : Machine σ ε) (cycles : Nat)
    (progress : Progress σ ε) (begun : progress.failure = none) :
    executeCycles machine cycles progress =
      let stretch := machine.stretch cycles progress.pacer.machineState
      { executed := progress.executed + stretch.words.length
        failure := stretch.failure
        pacer := progress.pacer.absorb stretch.words stretch.state
        trail :=
          (machine.stretchEvents progress.pacer.observe cycles
            progress.pacer.machineState).reverse ++ progress.trail } := by
  induction cycles generalizing progress with
  | zero =>
      cases progress
      cases begun
      simp only [executeCycles, Machine.stretch_zero, absorb_nil,
        Machine.stretchEvents]
      rfl
  | succ cycles ih =>
      cases result : (machine.tick progress.pacer.machineState).result with
      | ok word =>
          rw [executeCycles, executeCycle_of_ok result]
          simp only [Machine.stretch_succ_of_ok result]
          rw [ih _ rfl]
          simp only [Progress.advance, machineState_absorb, absorb_absorb,
            Machine.stretchEvents, result, Stretch.words_precede,
            Stretch.failure_precede, Stretch.state_precede,
            List.length_cons, List.singleton_append, List.reverse_append,
            List.append_assoc]
          congr 1
          exact Nat.add_right_comm _ _ _
      | error cause =>
          rw [executeCycles, executeCycle_of_error result]
          simp only [Machine.stretch_succ_of_error result, Progress.fail,
            Machine.stretchEvents, result, List.length_nil, Nat.add_zero]

theorem singleCycle_of_ok {machine : Machine σ ε} {pacer : Pacer σ}
    {word : Word}
    (executed : (machine.tick pacer.machineState).result = .ok word) :
    pacer.singleCycle machine =
      { reply := .stepped (some (pacer.decode word))
        pacer :=
          pacer.absorb [word] (machine.tick pacer.machineState).state
        events :=
          (machine.tick pacer.machineState).events ++ pacer.observe word ++
            [.stepped word (pacer.decode word).operation
              (pacer.cycleCount + 1)] } := by
  simp only [singleCycle, executeCycle_of_ok executed]
  rfl

theorem singleCycle_of_error {machine : Machine σ ε} {pacer : Pacer σ}
    {cause : ε}
    (failed : (machine.tick pacer.machineState).result = .error cause) :
    pacer.singleCycle machine =
      halt machine
        (pacer.absorb [] (machine.tick pacer.machineState).state) 0 cause
        (machine.tick pacer.machineState).events := by
  simp only [singleCycle, executeCycle_of_error failed]

theorem step_of_running {pacer : Pacer σ}
    (running : pacer.pace.mode = .running) (machine : Machine σ ε) :
    pacer.step machine = ⟨.stepped none, pacer, [.stepIgnored]⟩ := by
  rw [step, isPaused_of_running running]
  rfl

theorem step_of_paused {pacer : Pacer σ}
    (paused : pacer.pace.mode = .paused) (machine : Machine σ ε) :
    pacer.step machine = pacer.singleCycle machine := by
  rw [step, isPaused_of_paused paused]
  rfl

/-! ## Pulses -/

theorem pulse_of_paused {pacer : Pacer σ}
    (paused : pacer.pace.mode = .paused) (machine : Machine σ ε) :
    pacer.pulse machine =
      { reply := .pulsed ⟨.paused, 0, 0⟩
        pacer := pacer.countPulse
        events := [.pulseIgnored (pacer.pulseCount + 1)] } := by
  have ignored : pacer.countPulse.isPaused = true :=
    isPaused_of_paused paused
  rw [pulse]
  simp only [ignored, if_true]
  rfl

theorem pulse_of_running {pacer : Pacer σ}
    (running : pacer.pace.mode = .running) (machine : Machine σ ε) :
    pacer.pulse machine = pacer.countPulse.runningPulse machine := by
  have taken : pacer.countPulse.isPaused = false :=
    isPaused_of_running running
  rw [pulse]
  simp only [taken]
  rfl

/-- A running pulse whose stretch has no failure executes all its cycles. -/
theorem pulse_of_complete {machine : Machine σ ε} {pacer : Pacer σ}
    (running : pacer.pace.mode = .running)
    (complete :
      (machine.stretch pacer.pulseCycles pacer.machineState).failure =
        none) :
    pacer.pulse machine =
      let stretch := machine.stretch pacer.pulseCycles pacer.machineState
      { reply := .pulsed ⟨.running, pacer.pulseCycles, pacer.pulseCycles⟩
        pacer := pacer.countPulse.absorb stretch.words stretch.state
        events :=
          machine.stretchEvents pacer.observe pacer.pulseCycles
              pacer.machineState ++
            [.pulseComplete (pacer.pulseCount + 1) pacer.pulseCycles] } := by
  rw [pulse_of_running running, runningPulse, executeCycles_eq _ _ _ rfl]
  change
    (machine.stretch pacer.countPulse.pulseCycles
      pacer.countPulse.machineState).failure = none at complete
  simp only [Progress.start, complete, Progress.events, List.append_nil,
    List.reverse_reverse]
  rfl

/-- A running pulse whose stretch has a failure pauses the pacer. -/
theorem pulse_of_failure {machine : Machine σ ε} {pacer : Pacer σ}
    {cause : ε} (running : pacer.pace.mode = .running)
    (failed :
      (machine.stretch pacer.pulseCycles pacer.machineState).failure =
        some cause) :
    pacer.pulse machine =
      let stretch := machine.stretch pacer.pulseCycles pacer.machineState
      halt machine (pacer.countPulse.absorb stretch.words stretch.state)
        stretch.words.length cause
        (machine.stretchEvents pacer.observe pacer.pulseCycles
          pacer.machineState) := by
  rw [pulse_of_running running, runningPulse, executeCycles_eq _ _ _ rfl]
  change
    (machine.stretch pacer.countPulse.pulseCycles
      pacer.countPulse.machineState).failure = some cause at failed
  simp only [Progress.start, failed, Progress.events, List.append_nil,
    List.reverse_reverse, Nat.zero_add]
  rfl

end Pacer

end Chip8
