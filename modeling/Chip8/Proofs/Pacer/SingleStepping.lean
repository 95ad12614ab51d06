import Chip8.Machine.Script
import Chip8.Proofs.Pacer.Transition

/-!
# Pulses as single steps

A pulse executes its cycles in one go, steps execute them one by one.  Both
absorb the same stretch of ticks, so a pulse does what a host could do by
pausing, stepping as often as the pulse has cycles, and resuming; and a pulse
fails exactly where one of these steps would.

`succeed_iff_complete` and `runAll_steps` say what some steps come to, and
`reply_pulse_eq_failed_iff` when a pulse fails.
-/

namespace Chip8

variable {σ ε : Type}

/-- Whether the host is told of no failure. -/
def Reply.succeeded : Reply ε → Bool
  | .failed _ => false
  | _ => true

/-- Whether all commands of a run were performed without a failure. -/
def AllSucceed (outcomes : List (Outcome σ ε)) : Prop :=
  ∀ outcome ∈ outcomes, outcome.reply.succeeded = true

/-- Some steps, one after another. -/
def Command.steps (count : Nat) : List Command :=
  List.replicate count .step

theorem allSucceed_cons {first : Outcome σ ε}
    {rest : List (Outcome σ ε)} :
    AllSucceed (first :: rest) ↔
      first.reply.succeeded = true ∧ AllSucceed rest :=
  List.forall_mem_cons

theorem allSucceed_append {first second : List (Outcome σ ε)} :
    AllSucceed (first ++ second) ↔
      AllSucceed first ∧ AllSucceed second :=
  List.forall_mem_append

namespace Pacer

theorem runAll_append (machine : Machine σ ε) (pacer : Pacer σ)
    (first second : List Command) :
    pacer.runAll machine (first ++ second) =
      (pacer.runAll machine first).runAll machine second :=
  List.foldl_append

theorem outcomes_append (machine : Machine σ ε) (pacer : Pacer σ)
    (first second : List Command) :
    pacer.outcomes machine (first ++ second) =
      pacer.outcomes machine first ++
        (pacer.runAll machine first).outcomes machine second := by
  induction first generalizing pacer with
  | nil => rfl
  | cons command rest ih =>
      simp only [List.cons_append, outcomes, runAll_cons, ih]

/-! ## Steps of a paused pacer -/

/-- Steps without a failure absorb the words of their stretch. -/
theorem runAll_steps {machine : Machine σ ε} {pacer : Pacer σ}
    (paused : pacer.pace.mode = .paused) {count : Nat}
    (complete :
      (machine.stretch count pacer.machineState).failure = none) :
    pacer.runAll machine (Command.steps count) =
      let stretch := machine.stretch count pacer.machineState
      pacer.absorb stretch.words stretch.state := by
  induction count generalizing pacer with
  | zero => exact (absorb_nil pacer pacer.machineState).symm
  | succ count ih =>
      cases result : (machine.tick pacer.machineState).result with
      | ok word =>
          rw [Machine.stretch_succ_of_ok result] at complete ⊢
          have stepped :
              (pacer.perform machine .step).pacer =
                pacer.absorb [word]
                  (machine.tick pacer.machineState).state := by
            change (pacer.step machine).pacer = _
            rw [step_of_paused paused, singleCycle_of_ok result]
          have pausedNext :
              (pacer.perform machine .step).pacer.pace.mode = .paused := by
            rw [stepped]
            exact paused
          have completeNext :
              (machine.stretch count
                (pacer.perform machine .step).pacer.machineState).failure =
                  none := by
            rw [stepped]
            exact complete
          have later := ih pausedNext completeNext
          rw [Command.steps, List.replicate_succ, runAll_cons]
          refine later.trans ?_
          rw [stepped, machineState_absorb, absorb_absorb]
          rfl
      | error cause =>
          rw [Machine.stretch_succ_of_error result] at complete
          cases complete

/-- A step of a paused pacer fails exactly if the next tick does. -/
theorem reply_step_eq_failed_iff {machine : Machine σ ε}
    {pacer : Pacer σ} (paused : pacer.pace.mode = .paused) {cause : ε} :
    (pacer.perform machine .step).reply = .failed ⟨0, cause⟩ ↔
      (machine.tick pacer.machineState).result = .error cause := by
  change (pacer.step machine).reply = _ ↔ _
  rw [step_of_paused paused]
  cases result : (machine.tick pacer.machineState).result with
  | ok word =>
      rw [singleCycle_of_ok result]
      constructor
      · intro impossible
        cases impossible
      · intro impossible
        cases impossible
  | error other =>
      rw [singleCycle_of_error result]
      constructor
      · intro same
        cases same
        rfl
      · intro same
        cases same
        rfl

/-- Some steps succeed exactly if their stretch has no failure. -/
theorem succeed_iff_complete {machine : Machine σ ε} {pacer : Pacer σ}
    (paused : pacer.pace.mode = .paused) (count : Nat) :
    AllSucceed (pacer.outcomes machine (Command.steps count)) ↔
      (machine.stretch count pacer.machineState).failure = none := by
  induction count generalizing pacer with
  | zero => exact iff_of_true (fun _ member => nomatch member) rfl
  | succ count ih =>
      rw [Command.steps, List.replicate_succ, outcomes, allSucceed_cons]
      change
        (pacer.step machine).reply.succeeded = true ∧
          AllSucceed
            ((pacer.step machine).pacer.outcomes machine
              (Command.steps count)) ↔ _
      rw [step_of_paused paused]
      cases result : (machine.tick pacer.machineState).result with
      | ok word =>
          rw [singleCycle_of_ok result, Machine.stretch_succ_of_ok result]
          have pausedNext :
              (pacer.absorb [word]
                (machine.tick pacer.machineState).state).pace.mode =
                  .paused := paused
          exact (and_iff_right rfl).trans (ih pausedNext)
      | error cause =>
          rw [singleCycle_of_error result,
            Machine.stretch_succ_of_error result]
          constructor
          · rintro ⟨impossible, _⟩
            cases impossible
          · intro impossible
            cases impossible

/-! ## Pulses of a running pacer -/

theorem complete_of_reply_pulsed {machine : Machine σ ε}
    {pacer : Pacer σ} (running : pacer.pace.mode = .running)
    {summary : PulseSummary}
    (done : (pacer.perform machine .pulse).reply = .pulsed summary) :
    (machine.stretch pacer.pulseCycles pacer.machineState).failure =
      none := by
  change (pacer.pulse machine).reply = _ at done
  cases failure :
      (machine.stretch pacer.pulseCycles pacer.machineState).failure with
  | none => rfl
  | some cause =>
      rw [pulse_of_failure running failure] at done
      cases done

/--
A pulse fails after some cycles exactly if they are fewer than it planned,
their stretch has no failure, and the tick after them fails.
-/
theorem reply_pulse_eq_failed_iff {machine : Machine σ ε}
    {pacer : Pacer σ} (running : pacer.pace.mode = .running)
    {cycles : Nat} {cause : ε} :
    (pacer.perform machine .pulse).reply = .failed ⟨cycles, cause⟩ ↔
      let stretch := machine.stretch cycles pacer.machineState
      cycles < pacer.pulseCycles ∧ stretch.failure = none ∧
        (machine.tick stretch.state).result = .error cause := by
  change (pacer.pulse machine).reply = _ ↔ _
  constructor
  · intro reported
    cases failure :
        (machine.stretch pacer.pulseCycles pacer.machineState).failure with
    | none =>
        rw [pulse_of_complete running failure] at reported
        cases reported
    | some other =>
        rw [pulse_of_failure running failure] at reported
        cases reported
        have before := Machine.stretch_before_failure failure
        exact ⟨Machine.length_words_lt_of_failure failure, before.1,
          before.2.2.1⟩
  · rintro ⟨fewer, complete, failed⟩
    have whole := Machine.stretch_past_failure complete failed fewer
    have failure :
        (machine.stretch pacer.pulseCycles pacer.machineState).failure =
          some cause := by
      rw [whole]
    rw [pulse_of_failure running failure, whole]
    simp only [halt, Machine.length_words_of_complete complete]

/-! ## One by the other -/

section

variable {machine : Machine σ ε} {pacer : Pacer σ}

/-- Pausing, stepping through a stretch without a failure, and resuming. -/
theorem runAll_pause_steps {count : Nat}
    (complete :
      (machine.stretch count pacer.machineState).failure = none) :
    pacer.runAll machine (.pause :: Command.steps count) =
      let stretch := machine.stretch count pacer.machineState
      (pacer.absorb stretch.words stretch.state).withMode .paused := by
  have paused : (pacer.withMode .paused).pace.mode = .paused := rfl
  rw [runAll_cons]
  exact runAll_steps paused complete

/-- A pulse that succeeds leaves what its steps and a resume leave. -/
theorem pulse_of_reply_pulsed (running : pacer.pace.mode = .running)
    {summary : PulseSummary}
    (done : (pacer.perform machine .pulse).reply = .pulsed summary) :
    let commands :=
      .pause :: Command.steps pacer.pulseCycles ++ [.resume]
    let stepped := pacer.runAll machine commands
    AllSucceed (pacer.outcomes machine commands) ∧
      (pacer.perform machine .pulse).pacer =
        { stepped with pulseCount := stepped.pulseCount + 1 } := by
  intro commands stepped
  have complete := complete_of_reply_pulsed running done
  have paused : (pacer.withMode .paused).pace.mode = .paused := rfl
  constructor
  · rw [outcomes_append, allSucceed_append]
    constructor
    · exact allSucceed_cons.mpr
        ⟨rfl, (succeed_iff_complete paused pacer.pulseCycles).mpr complete⟩
    · exact allSucceed_cons.mpr ⟨rfl, fun _ member => nomatch member⟩
  · let stretch := machine.stretch pacer.pulseCycles pacer.machineState
    have runningAgain :
        (pacer.absorb stretch.words stretch.state).pace.mode = .running :=
      running
    have steps : stepped = pacer.absorb stretch.words stretch.state := by
      change pacer.runAll machine (_ ++ _) = _
      rw [runAll_append, runAll_pause_steps complete]
      exact withMode_self runningAgain
    change (pacer.pulse machine).pacer = _
    rw [pulse_of_complete running complete, steps]
    rfl

/-- A pulse that fails leaves what its steps and the failing one leave. -/
theorem pulse_of_reply_failed (running : pacer.pace.mode = .running)
    {cycles : Nat} {cause : ε}
    (failed :
      (pacer.perform machine .pulse).reply = .failed ⟨cycles, cause⟩) :
    let stepped :=
      pacer.runAll machine (.pause :: Command.steps (cycles + 1))
    (pacer.perform machine .pulse).pacer =
      { stepped with pulseCount := stepped.pulseCount + 1 } := by
  intro stepped
  rcases (reply_pulse_eq_failed_iff running).mp failed with
    ⟨fewer, complete, last⟩
  let stretch := machine.stretch cycles pacer.machineState
  let paused := (pacer.absorb stretch.words stretch.state).withMode .paused
  have next : (machine.tick paused.machineState).result = .error cause :=
    last
  have steps : stepped = (paused.step machine).pacer := by
    change pacer.runAll machine (.pause :: Command.steps (cycles + 1)) = _
    rw [Command.steps, List.replicate_succ', ← List.cons_append,
      runAll_append]
    change ((pacer.runAll machine
      (.pause :: Command.steps cycles)).step machine).pacer = _
    rw [runAll_pause_steps complete]
  have whole := Machine.stretch_past_failure complete last fewer
  have failure :
      (machine.stretch pacer.pulseCycles pacer.machineState).failure =
        some cause := by
    rw [whole]
  change (pacer.pulse machine).pacer = _
  rw [pulse_of_failure running failure, whole, steps,
    step_of_paused (mode_withMode _ _), singleCycle_of_error next]
  simp only [halt, paused, absorb_withMode, absorb_absorb, List.append_nil]
  rfl

end

/--
A pulse equals single steps.  It succeeds with all of its cycles or it fails.
If it succeeds, pausing, stepping through its cycles and resuming succeed as
well and leave the same behind but for the count of pulses.  It fails after
some cycles exactly if, after a pause, that many steps succeed and the next
one fails for the same cause, and then the failed pulse and the failed step
leave the same behind in the same sense.
-/
theorem pulse_eq_steps (machine : Machine σ ε) (pacer : Pacer σ)
    (running : pacer.pace.mode = .running) :
    let pulse := pacer.perform machine .pulse
    (pulse.reply = .pulsed ⟨.running, pacer.pulseCycles, pacer.pulseCycles⟩ ∨
        ∃ failure, pulse.reply = .failed failure) ∧
      (∀ summary, pulse.reply = .pulsed summary →
        let commands :=
          .pause :: Command.steps pacer.pulseCycles ++ [.resume]
        let stepped := pacer.runAll machine commands
        AllSucceed (pacer.outcomes machine commands) ∧
          pulse.pacer =
            { stepped with pulseCount := stepped.pulseCount + 1 }) ∧
      ∀ cycles cause,
        (pulse.reply = .failed ⟨cycles, cause⟩ ↔
          let commands := .pause :: Command.steps cycles
          cycles < pacer.pulseCycles ∧
            AllSucceed (pacer.outcomes machine commands) ∧
            ((pacer.runAll machine commands).perform machine .step).reply =
              .failed ⟨0, cause⟩) ∧
        (pulse.reply = .failed ⟨cycles, cause⟩ →
          let stepped :=
            pacer.runAll machine (.pause :: Command.steps (cycles + 1))
          pulse.pacer =
            { stepped with pulseCount := stepped.pulseCount + 1 }) := by
  intro pulse
  refine ⟨?_, fun summary done => pulse_of_reply_pulsed running done, ?_⟩
  · rcases (transition_perform machine pacer .pulse).pulse_reply_of_running
      running with done | ⟨failure, failed, _⟩
    · exact .inl done
    · exact .inr ⟨failure, failed⟩
  intro cycles cause
  refine ⟨?_, fun failed => pulse_of_reply_failed running failed⟩
  have paused : (pacer.withMode .paused).pace.mode = .paused := rfl
  have succeed :
      AllSucceed
          (pacer.outcomes machine (.pause :: Command.steps cycles)) ↔
        (machine.stretch cycles pacer.machineState).failure = none := by
    refine (allSucceed_cons.trans (and_iff_right rfl)).trans ?_
    exact succeed_iff_complete paused cycles
  have next
      (complete :
        (machine.stretch cycles pacer.machineState).failure = none) :
      ((pacer.runAll machine (.pause :: Command.steps cycles)).perform
          machine .step).reply = .failed ⟨0, cause⟩ ↔
        (machine.tick
          (machine.stretch cycles pacer.machineState).state).result =
            .error cause := by
    rw [runAll_pause_steps complete]
    exact reply_step_eq_failed_iff (mode_withMode _ _)
  refine (reply_pulse_eq_failed_iff running).trans ?_
  constructor
  · rintro ⟨fewer, complete, failed⟩
    exact ⟨fewer, succeed.mpr complete, (next complete).mpr failed⟩
  · rintro ⟨fewer, succeeded, failed⟩
    have complete := succeed.mp succeeded
    exact ⟨fewer, complete, (next complete).mp failed⟩

/-- The second pulse of a machine whose thirteenth tick fails. -/
theorem pulse_eq_steps_second_pulse :
    let machine := Script.machine ⟨[⟨0x00E0⟩, ⟨0x1200⟩], [13], "fault"⟩
    let pacer := (Pacer.start .standard 0).runAll machine [.pulse]
    let commands := .pause :: Command.steps 2
    pacer.pace.mode = .running ∧
      (pacer.perform machine .pulse).reply =
        .failed ⟨2, ⟨"fault", 13⟩⟩ ∧
      AllSucceed (pacer.outcomes machine commands) ∧
      ((pacer.runAll machine commands).perform machine .step).reply =
        .failed ⟨0, ⟨"fault", 13⟩⟩ := by
  intro machine pacer commands
  have running : pacer.pace.mode = .running := by decide
  have failed :
      (pacer.perform machine .pulse).reply =
        .failed ⟨2, ⟨"fault", 13⟩⟩ := by
    decide
  have equal := pulse_eq_steps machine pacer running
  have steps := (equal.2.2 2 ⟨"fault", 13⟩).1.mp failed
  exact ⟨running, failed, steps.2.1, steps.2.2⟩

end Pacer

end Chip8
