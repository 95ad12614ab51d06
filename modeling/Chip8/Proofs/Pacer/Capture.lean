import Chip8.Proofs.Pacer.Transition

/-!
# What the history has captured

The history of a pacer is compared with the words that its machine executed.
A tape collects the executed words of a run while capture is on, without a
bound, and starts anew when the history is forgotten.  The history is always
the newest end of the tape, decoded: `tape_matches_runAll`, and
`history_eq_captured` for the runs of a configuration.
-/

namespace Chip8

variable {σ ε : Type}

/-- The captured words of a run since its history was last forgotten. -/
structure Tape where
  /-- Whether capture is on. -/
  capture : Bool
  /-- The captured words, the oldest first. -/
  words : List Word

namespace Tape

/-- The tape after a command whose ticks came to the given results. -/
def feed (tape : Tape) (command : Command)
    (results : List (Except ε Word)) : Tape where
  capture := command.captureAfter tape.capture
  words :=
    match command with
    | .forget => []
    | _ =>
        if tape.capture then
          tape.words ++ executedWords results
        else
          tape.words

/-- The tape after some commands. -/
def feedAll (machine : Machine σ ε) :
    Pacer σ → Tape → List Command → Tape
  | _, tape, [] => tape
  | pacer, tape, command :: rest =>
      feedAll machine (pacer.perform machine command).pacer
        (tape.feed command (pacer.ticksOf machine command)) rest

/-- The history of a pacer is the newest end of the tape, decoded. -/
structure Matches (tape : Tape) (pacer : Pacer σ) : Prop where
  capture_eq : pacer.config.capture = tape.capture
  toList_eq :
    pacer.history.toList =
      (tape.words.map pacer.decode).reverse.take pacer.history.capacity

end Tape

namespace Pacer

/-- The words captured in a run, the oldest first. -/
def capturedWords (machine : Machine σ ε) (pacer : Pacer σ)
    (commands : List Command) : List Word :=
  (Tape.feedAll machine pacer ⟨pacer.config.capture, []⟩ commands).words

end Pacer

/-! ## One transition -/

namespace Transition

variable {before after : Pacer σ} {command : Command} {reply : Reply ε}
  {results : List (Except ε Word)}

theorem decode_eq
    (transition : Transition before command reply results after) :
    after.decode = before.decode := by
  funext word
  rw [Pacer.decode, Pacer.decode, transition.config_eq]

theorem toList_history_forget
    (transition : Transition before .forget reply results after) :
    after.history.toList = [] := by
  cases transition
  rfl

/--
Unless it is forgotten, the history gets the rows of the executed words; the
failed ticks among the results add none.
-/
theorem toList_history_eq
    (transition : Transition before command reply results after)
    (kept : command ≠ .forget) :
    after.history.toList =
      ((before.rows (executedWords results)).reverse ++
        before.history.toList).take before.history.capacity := by
  have unchanged :
      before.history.toList =
        ((before.rows []).reverse ++ before.history.toList).take
          before.history.capacity := by
    rw [Pacer.rows_nil]
    exact (Window.take_toList before.history).symm
  cases transition with
  | pulseComplete words state =>
      rw [executedWords_map_ok]
      exact Pacer.toList_history_absorb before.countPulse words state
  | pulseFailed words cause state =>
      rw [executedWords_append, executedWords_map_ok, executedWords_error,
        List.append_nil]
      exact Pacer.toList_history_absorb before.countPulse words state
  | stepped word state =>
      exact Pacer.toList_history_absorb before [word] state
  | stepFailed cause state =>
      exact Pacer.toList_history_absorb before [] state
  | forget => exact absurd rfl kept
  | pulseIgnored | stepIgnored | pause | resume | changeSpeed
  | changeCapture => exact unchanged

/-- A transition feeds to the tape what it adds to the history. -/
theorem tape_matches {tape : Tape}
    (transition : Transition before command reply results after)
    (tapeMatches : tape.Matches before) :
    (tape.feed command results).Matches after := by
  constructor
  · rw [transition.config_eq]
    exact congrArg command.captureAfter tapeMatches.capture_eq
  · by_cases forgotten : command = .forget
    · subst forgotten
      rw [transition.toList_history_forget]
      exact List.take_nil.symm
    · have fed :
          (tape.feed command results).words =
            if tape.capture then
              tape.words ++ executedWords results
            else
              tape.words := by
        cases command with
        | forget => exact absurd rfl forgotten
        | pulse | step | pause | resume | changeSpeed | changeCapture => rfl
      rw [transition.toList_history_eq forgotten, transition.decode_eq,
        transition.capacity_eq, fed, tapeMatches.toList_eq, Pacer.rows,
        tapeMatches.capture_eq, Window.take_append_take]
      cases tape.capture with
      | true =>
          simp only [if_true, List.map_append, List.reverse_append]
      | false => rfl

end Transition

/-! ## Whole runs -/

theorem tape_matches_runAll (machine : Machine σ ε) {pacer : Pacer σ}
    {tape : Tape} (tapeMatches : tape.Matches pacer)
    (commands : List Command) :
    (Tape.feedAll machine pacer tape commands).Matches
      (pacer.runAll machine commands) := by
  induction commands generalizing pacer tape with
  | nil => exact tapeMatches
  | cons command rest ih =>
      have transition := Pacer.transition_perform machine pacer command
      exact ih (transition.tape_matches tapeMatches)

namespace Pacer

theorem capacity_history_runAll (machine : Machine σ ε) (pacer : Pacer σ)
    (commands : List Command) :
    (pacer.runAll machine commands).history.capacity =
      pacer.history.capacity := by
  induction commands generalizing pacer with
  | nil => rfl
  | cons command rest ih =>
      rw [runAll_cons, ih,
        (transition_perform machine pacer command).capacity_eq]

theorem decode_runAll (machine : Machine σ ε) (pacer : Pacer σ)
    (commands : List Command) :
    (pacer.runAll machine commands).decode = pacer.decode := by
  induction commands generalizing pacer with
  | nil => rfl
  | cons command rest ih =>
      rw [runAll_cons, ih,
        (transition_perform machine pacer command).decode_eq]

/--
The history of a run is exactly what was captured: of the words executed while
capture was on, since the history was last forgotten, the newest as many as
its capacity allows, decoded in the dialect of the configuration and listed
newest first.  The capacity never changes.
-/
theorem history_eq_captured (machine : Machine σ ε) (config : Config)
    (state : σ) (commands : List Command) :
    let begun := Pacer.start config state
    let final := begun.runAll machine commands
    final.history.capacity = config.historyCapacity.toNat ∧
      final.history.toList =
        (((begun.capturedWords machine commands).map
          (Instruction.decode config.dialect)).reverse).take
            config.historyCapacity.toNat := by
  intro begun final
  have capacity :
      final.history.capacity = config.historyCapacity.toNat :=
    capacity_history_runAll machine begun commands
  have decode : final.decode = Instruction.decode config.dialect :=
    decode_runAll machine begun commands
  have blank : Tape.Matches ⟨config.capture, []⟩ begun :=
    ⟨rfl, List.take_nil.symm⟩
  have recorded := (tape_matches_runAll machine blank commands).toList_eq
  refine ⟨capacity, ?_⟩
  rw [← capacity, ← decode]
  exact recorded

end Pacer

end Chip8
