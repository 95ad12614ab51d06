import Chip8.Proofs.Pacer.Remarks

/-!
# Two voices

The events of a command are told by the pacer and by the ticks of its machine.
If the ticks tell of nothing that pacers tell of, the two voices can be heard
apart: what the pacer tells are the events of the muted machine, and the rest
are the events of the ticks, one tick after another.  `voices_perform` says so
for every command.
-/

namespace Chip8

variable {σ ε : Type}

/-! ## Hearing voices apart -/

/-- Whether an event is of a kind that pacers tell of. -/
def Event.byPacer : Event → Bool
  | .backlogDropped .. => false
  | .releaseFailed .. => false
  | _ => true

/-- Some events are those that pacers tell of, and others, each in order. -/
structure Voices (events told aside : List Event) : Prop where
  told : events.filter (fun event => event.byPacer) = told
  aside : events.filter (fun event => !event.byPacer) = aside

namespace Voices

theorem append {events told aside events' told' aside' : List Event}
    (first : Voices events told aside)
    (second : Voices events' told' aside') :
    Voices (events ++ events') (told ++ told') (aside ++ aside') where
  told := by rw [List.filter_append, first.told, second.told]
  aside := by rw [List.filter_append, first.aside, second.aside]

theorem of_told {events : List Event}
    (told : ∀ event ∈ events, event.byPacer = true) :
    Voices events events [] where
  told := List.filter_eq_self.mpr told
  aside := by
    rw [List.filter_eq_nil_iff]
    intro event member
    simp only [told event member, Bool.not_true, Bool.false_eq_true,
      not_false_eq_true]

theorem of_aside {events : List Event}
    (aside : ∀ event ∈ events, event.byPacer = false) :
    Voices events [] events where
  told := by
    rw [List.filter_eq_nil_iff]
    intro event member
    simp only [aside event member, Bool.false_eq_true, not_false_eq_true]
  aside := by
    rw [List.filter_eq_self]
    intro event member
    simp only [aside event member, Bool.not_false]

theorem nil : Voices [] [] [] where
  told := rfl
  aside := rfl

theorem single {event : Event} (byPacer : event.byPacer = true) :
    Voices [event] [event] [] := by
  apply of_told
  intro other member
  rw [List.mem_singleton.mp member]
  exact byPacer

/-- The last event of a command is told by the pacer. -/
theorem append_told {events told aside : List Event}
    (voices : Voices events told aside) {last : Event}
    (byPacer : last.byPacer = true) :
    Voices (events ++ [last]) (told ++ [last]) aside := by
  have both := voices.append (single byPacer)
  rwa [List.append_nil] at both

end Voices

/-! ## Stretches -/

namespace Machine

/-- The events of a number of ticks, one tick after another. -/
def attemptEvents (machine : Machine σ ε) : Nat → σ → List Event
  | 0, _ => []
  | count + 1, state =>
      let tick := machine.tick state
      tick.events ++ machine.attemptEvents count tick.state

theorem attemptEvents_one (machine : Machine σ ε) (state : σ) :
    machine.attemptEvents 1 state = (machine.tick state).events :=
  List.append_nil _

/-- The ticks of a machine tell of nothing that pacers tell of. -/
def SpeaksAside (machine : Machine σ ε) : Prop :=
  ∀ state, ∀ event ∈ (machine.tick state).events, event.byPacer = false

/-- Each tick is heard aside, then its word is told. -/
theorem voices_stretchEvents {machine : Machine σ ε}
    (aside : machine.SpeaksAside) {observe : Word → List Event}
    (observed : ∀ word, ∀ event ∈ observe word, event.byPacer = true)
    (cycles : Nat) (state : σ) :
    Voices (machine.stretchEvents observe cycles state)
      (machine.muted.stretchEvents observe cycles state)
      (machine.attemptEvents
        (machine.stretch cycles state).results.length state) := by
  induction cycles generalizing state with
  | zero => exact .nil
  | succ cycles ih =>
      have ticked := Voices.of_aside (aside state)
      cases result : (machine.tick state).result with
      | ok word =>
          have executed : (machine.muted.tick state).result = .ok word :=
            result
          have seen := Voices.of_told (observed word)
          have rest := ih (machine.tick state).state
          rw [stretch_succ_of_ok result]
          simp only [stretchEvents, result, executed]
          have all := (ticked.append seen).append rest
          rw [List.append_nil] at all
          exact all
      | error cause =>
          have failed : (machine.muted.tick state).result = .error cause :=
            result
          rw [stretch_succ_of_error result]
          simp only [stretchEvents, result, failed]
          exact (machine.attemptEvents_one state).symm ▸ ticked

end Machine

/-! ## Commands -/

namespace Pacer

theorem byPacer_of_mem_observe (pacer : Pacer σ) (word : Word) :
    ∀ event ∈ pacer.observe word, event.byPacer = true := by
  intro event member
  unfold observe at member
  split at member
  · rw [List.mem_singleton.mp member]
    rfl
  · cases member

variable {machine : Machine σ ε} (aside : machine.SpeaksAside)
  (pacer : Pacer σ)
include aside

theorem voices_pulse :
    Voices (pacer.pulse machine).events (pacer.pulse machine.muted).events
      (machine.attemptEvents (pacer.ticksOf machine .pulse).length
        pacer.machineState) := by
  have stretches :=
    machine.stretch_muted pacer.pulseCycles pacer.machineState
  have voices :=
    Machine.voices_stretchEvents aside pacer.byPacer_of_mem_observe
      pacer.pulseCycles pacer.machineState
  by_cases running : pacer.pace.mode = .running
  · rw [ticksOf_pulse_of_running running]
    cases failure :
        (machine.stretch pacer.pulseCycles pacer.machineState).failure with
    | none =>
        have complete := (congrArg Stretch.failure stretches).trans failure
        rw [pulse_of_complete running complete,
          pulse_of_complete running failure]
        exact voices.append_told rfl
    | some cause =>
        have failed := (congrArg Stretch.failure stretches).trans failure
        rw [pulse_of_failure running failed,
          pulse_of_failure running failure, stretches]
        exact voices.append_told rfl
  · have paused := paused_of_not_running running
    rw [ticksOf_pulse_of_paused paused, pulse_of_paused paused,
      pulse_of_paused paused]
    exact .single rfl

theorem voices_step :
    Voices (pacer.step machine).events (pacer.step machine.muted).events
      (machine.attemptEvents (pacer.ticksOf machine .step).length
        pacer.machineState) := by
  have ticked := Voices.of_aside (aside pacer.machineState)
  by_cases running : pacer.pace.mode = .running
  · rw [ticksOf_step_of_running running, step_of_running running,
      step_of_running running]
    exact .single rfl
  · have paused := paused_of_not_running running
    rw [ticksOf_step_of_paused paused, step_of_paused paused,
      step_of_paused paused]
    change Voices _ _ (machine.attemptEvents 1 pacer.machineState)
    rw [Machine.attemptEvents_one]
    cases result : (machine.tick pacer.machineState).result with
    | ok word =>
        have executed :
            (machine.muted.tick pacer.machineState).result = .ok word :=
          result
        have seen := Voices.of_told (pacer.byPacer_of_mem_observe word)
        have all := ticked.append seen
        rw [List.append_nil] at all
        rw [singleCycle_of_ok executed, singleCycle_of_ok result]
        exact all.append_told rfl
    | error cause =>
        have failed :
            (machine.muted.tick pacer.machineState).result = .error cause :=
          result
        rw [singleCycle_of_error failed, singleCycle_of_error result]
        exact ticked.append_told rfl

/-- Of every command both voices are heard, each in its order. -/
theorem voices_perform (command : Command) :
    Voices (pacer.perform machine command).events
      (pacer.perform machine.muted command).events
      (machine.attemptEvents (pacer.ticksOf machine command).length
        pacer.machineState) := by
  cases command with
  | pulse => exact voices_pulse aside pacer
  | step => exact voices_step aside pacer
  | pause =>
      simp only [perform, pause]
      split
      · exact .nil
      · exact .single rfl
  | resume =>
      simp only [perform, resume]
      split
      · exact .single rfl
      · exact .nil
  | changeSpeed speed =>
      simp only [perform, changeSpeed]
      split
      · exact .nil
      · exact .single rfl
  | changeCapture | forget => exact .nil

end Pacer

end Chip8
