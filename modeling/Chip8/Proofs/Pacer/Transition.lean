import Chip8.Proofs.Pacer.Tracing

/-!
# Transitions of a pacer

A transition is what a command can do to a pacer: the reply it gets, what the
ticks it makes come to, and the pacer after it.  There is one constructor for
each way in which a command can end, and no machine is mentioned; a machine
only decides what the ticks come to.

`transition_perform` says that every command performed is a transition.  What
a command replies, and what a run keeps or counts, is derived from transitions
and not from the commands: replies are one sum for all commands, and the lemmas
on replies say which of them a pulse and a step can get.
-/

namespace Chip8

variable {σ ε : Type}

/-- What a command can do, by the results of the ticks that it makes. -/
inductive Transition (before : Pacer σ) :
    Command → Reply ε → List (Except ε Word) → Pacer σ → Prop where
  | pulseIgnored (paused : before.pace.mode = .paused) :
      Transition before .pulse (.pulsed ⟨.paused, 0, 0⟩) []
        before.countPulse
  | pulseComplete (words : List Word) (state : σ)
      (running : before.pace.mode = .running)
      (complete : words.length = before.pulseCycles) :
      Transition before .pulse
        (.pulsed ⟨.running, before.pulseCycles, before.pulseCycles⟩)
        (words.map .ok) (before.countPulse.absorb words state)
  | pulseFailed (words : List Word) (cause : ε) (state : σ)
      (running : before.pace.mode = .running)
      (incomplete : words.length < before.pulseCycles) :
      Transition before .pulse (.failed ⟨words.length, cause⟩)
        (words.map .ok ++ [.error cause])
        ((before.countPulse.absorb words state).withMode .paused)
  | stepIgnored (running : before.pace.mode = .running) :
      Transition before .step (.stepped none) [] before
  | stepped (word : Word) (state : σ)
      (paused : before.pace.mode = .paused) :
      Transition before .step (.stepped (some (before.decode word)))
        [.ok word] (before.absorb [word] state)
  | stepFailed (cause : ε) (state : σ)
      (paused : before.pace.mode = .paused) :
      Transition before .step (.failed ⟨0, cause⟩) [.error cause]
        ((before.absorb [] state).withMode .paused)
  | pause :
      Transition before .pause .done [] (before.withMode .paused)
  | resume :
      Transition before .resume .done [] (before.withMode .running)
  | changeSpeed (speed : Speed) :
      Transition before (.changeSpeed speed) .done []
        { before with pace := { before.pace with speed } }
  | changeCapture (capture : Bool) :
      Transition before (.changeCapture capture) .done []
        { before with config := { before.config with capture } }
  | forget :
      Transition before .forget .done []
        { before with history := before.history.clear }

namespace Pacer

theorem transition_pulse (machine : Machine σ ε) (before : Pacer σ) :
    Transition before .pulse (before.pulse machine).reply
      (before.ticksOf machine .pulse) (before.pulse machine).pacer := by
  by_cases running : before.pace.mode = .running
  · rw [ticksOf_pulse_of_running running]
    unfold Stretch.results
    cases failure :
        (machine.stretch before.pulseCycles before.machineState).failure with
    | none =>
        rw [pulse_of_complete running failure, Option.toList_none,
          List.map_nil, List.append_nil]
        exact .pulseComplete _ _ running
          (Machine.length_words_of_complete failure)
    | some cause =>
        rw [pulse_of_failure running failure, Option.toList_some,
          List.map_singleton]
        exact .pulseFailed _ cause _ running
          (Machine.length_words_lt_of_failure failure)
  · have paused := paused_of_not_running running
    rw [ticksOf_pulse_of_paused paused, pulse_of_paused paused]
    exact .pulseIgnored paused

theorem transition_step (machine : Machine σ ε) (before : Pacer σ) :
    Transition before .step (before.step machine).reply
      (before.ticksOf machine .step) (before.step machine).pacer := by
  by_cases running : before.pace.mode = .running
  · rw [ticksOf_step_of_running running, step_of_running running]
    exact .stepIgnored running
  · have paused := paused_of_not_running running
    rw [ticksOf_step_of_paused paused, step_of_paused paused]
    cases result : (machine.tick before.machineState).result with
    | ok word =>
        rw [singleCycle_of_ok result]
        exact .stepped word _ paused
    | error cause =>
        rw [singleCycle_of_error result]
        exact .stepFailed cause _ paused

/-- Every command performed is a transition. -/
theorem transition_perform (machine : Machine σ ε) (before : Pacer σ)
    (command : Command) :
    Transition before command (before.perform machine command).reply
      (before.ticksOf machine command)
      (before.perform machine command).pacer := by
  cases command with
  | pulse => exact transition_pulse machine before
  | step => exact transition_step machine before
  | pause => exact .pause
  | resume => exact .resume
  | changeSpeed speed => exact .changeSpeed speed
  | changeCapture capture => exact .changeCapture capture
  | forget => exact .forget

end Pacer

/-! ## What a transition replies -/

namespace Transition

variable {before after : Pacer σ} {reply : Reply ε}
  {results : List (Except ε Word)}

/-- A running pulse executes what it planned, or it fails before that. -/
theorem pulse_reply_of_running
    (transition : Transition before .pulse reply results after)
    (running : before.pace.mode = .running) :
    reply = .pulsed ⟨.running, before.pulseCycles, before.pulseCycles⟩ ∨
      ∃ failure, reply = .failed failure ∧
        failure.cycles < before.pulseCycles := by
  cases transition with
  | pulseIgnored paused =>
      exact (Pacer.not_running_of_paused paused running).elim
  | pulseComplete words state => exact .inl rfl
  | pulseFailed words cause state _ incomplete =>
      exact .inr ⟨⟨words.length, cause⟩, rfl, incomplete⟩

theorem pulse_reply_of_paused
    (transition : Transition before .pulse reply results after)
    (paused : before.pace.mode = .paused) :
    reply = .pulsed ⟨.paused, 0, 0⟩ := by
  cases transition with
  | pulseIgnored => rfl
  | pulseComplete words state running
  | pulseFailed words cause state running =>
      exact (Pacer.not_running_of_paused paused running).elim

theorem step_reply_of_running
    (transition : Transition before .step reply results after)
    (running : before.pace.mode = .running) :
    reply = .stepped none := by
  cases transition with
  | stepIgnored => rfl
  | stepped word state paused | stepFailed cause state paused =>
      exact (Pacer.not_running_of_paused paused running).elim

/-- A paused step executes an instruction, or it fails at once. -/
theorem step_reply_of_paused
    (transition : Transition before .step reply results after)
    (paused : before.pace.mode = .paused) :
    (∃ instruction, reply = .stepped (some instruction)) ∨
      ∃ cause, reply = .failed ⟨0, cause⟩ := by
  cases transition with
  | stepIgnored running =>
      exact (Pacer.not_running_of_paused paused running).elim
  | stepped word state => exact .inl ⟨before.decode word, rfl⟩
  | stepFailed cause state => exact .inr ⟨cause, rfl⟩

end Transition

/-! ## What a transition keeps and what it counts -/

/-- The words that some ticks executed, the failed ones left out. -/
def executedWords (results : List (Except ε Word)) : List Word :=
  results.filterMap Except.toOption

theorem length_executedWords (results : List (Except ε Word)) :
    (executedWords results).length = results.countP Except.isOk := by
  rw [executedWords, List.length_filterMap_eq_countP]
  apply List.countP_congr
  intro result _
  cases result <;> rfl

@[simp]
theorem executedWords_append (first second : List (Except ε Word)) :
    executedWords (first ++ second) =
      executedWords first ++ executedWords second :=
  List.filterMap_append

@[simp]
theorem executedWords_map_ok (words : List Word) :
    executedWords (words.map (Except.ok (ε := ε))) = words := by
  induction words with
  | nil => rfl
  | cons word rest ih => exact congrArg (List.cons word) ih

@[simp]
theorem executedWords_error (cause : ε) :
    executedWords [.error cause] = [] :=
  rfl

namespace Command

/-- The speed after a command. -/
def speedAfter (speed : Speed) : Command → Speed
  | changeSpeed other => other
  | _ => speed

/-- Whether capture is on after a command. -/
def captureAfter (capture : Bool) : Command → Bool
  | changeCapture other => other
  | _ => capture

end Command

namespace Transition

variable {before after : Pacer σ} {command : Command} {reply : Reply ε}
  {results : List (Except ε Word)}

theorem speed_eq (transition : Transition before command reply results after) :
    after.pace.speed = command.speedAfter before.pace.speed := by
  cases transition <;> rfl

/-- Of a configuration only the capture is ever changed. -/
theorem config_eq
    (transition : Transition before command reply results after) :
    after.config =
      { before.config with
        capture := command.captureAfter before.config.capture } := by
  cases transition <;> rfl

theorem capacity_eq
    (transition : Transition before command reply results after) :
    after.history.capacity = before.history.capacity := by
  cases transition with
  | pulseComplete words state =>
      exact Pacer.capacity_history_absorb before.countPulse words state
  | pulseFailed words cause state =>
      exact Pacer.capacity_history_absorb before.countPulse words state
  | stepped word state =>
      exact Pacer.capacity_history_absorb before [word] state
  | stepFailed cause state =>
      exact Pacer.capacity_history_absorb before [] state
  | pulseIgnored | stepIgnored | pause | resume | changeSpeed
  | changeCapture | forget => rfl

/-- The cycles counted are the ticks that executed a word. -/
theorem cycleCount_eq
    (transition : Transition before command reply results after) :
    after.cycleCount =
      before.cycleCount + (executedWords results).length := by
  cases transition with
  | pulseComplete words state =>
      rw [executedWords_map_ok]
      rfl
  | pulseFailed words cause state =>
      rw [executedWords_append, executedWords_map_ok, executedWords_error,
        List.append_nil]
      rfl
  | pulseIgnored | stepIgnored | stepped | stepFailed | pause | resume
  | changeSpeed | changeCapture | forget => rfl

end Transition

end Chip8
