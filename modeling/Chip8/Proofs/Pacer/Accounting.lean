import Chip8.Proofs.Pacer.Transition
import Mathlib.Algebra.GroupWithZero.Nat

/-!
# Accounting for cycles

The counters of a pacer are compared with what its host has seen: the commands
it gave and the replies it got.  Each transition balances the ticks that were
made against the counted cycles and the reported ones, and so does every run.

`cycle_accounting` is the balance of a whole run.  The functions that read the
reported cycles off an exchange are zero at replies that its command never
gets, so it also says which replies every pulse and every step of a run got.
-/

namespace Chip8

variable {σ ε : Type}

/-! ## What a host sees of a run -/

/-- A command with the reply it got. -/
structure Exchange (ε : Type) where
  command : Command
  reply : Reply ε

namespace Exchange

/-- Whether the machine failed. -/
def failed (exchange : Exchange ε) : Bool :=
  match exchange.reply with
  | .failed _ => true
  | _ => false

/-- The cycles reported by a pulse that did not fail. -/
def completedCycles : Exchange ε → Nat
  | ⟨.pulse, .pulsed summary⟩ => summary.executed
  | _ => 0

/-- The cycles reported by a pulse that failed. -/
def interruptedCycles : Exchange ε → Nat
  | ⟨.pulse, .failed failure⟩ => failure.cycles
  | _ => 0

/-- Whether a step executed an instruction. -/
def stepped : Exchange ε → Bool
  | ⟨.step, .stepped (some _)⟩ => true
  | _ => false

/-- The mode after an exchange, as pauses, resumes and failures leave it. -/
def modeAfter (mode : Mode) : Exchange ε → Mode
  | ⟨_, .failed _⟩ => .paused
  | ⟨.pause, _⟩ => .paused
  | ⟨.resume, _⟩ => .running
  | _ => mode

end Exchange

/-- The speed after some commands, as the last change of it leaves it. -/
def lastSpeed (initial : Speed) (commands : List Command) : Speed :=
  commands.foldl Command.speedAfter initial

/-- The mode after some exchanges of a run that was begun running. -/
def lastMode (exchanges : List (Exchange ε)) : Mode :=
  exchanges.foldl Exchange.modeAfter .running

namespace Pacer

/-- Some commands with the replies they get, one after another. -/
def exchanges (machine : Machine σ ε) (pacer : Pacer σ)
    (commands : List Command) : List (Exchange ε) :=
  List.zipWith (fun command outcome => ⟨command, outcome.reply⟩) commands
    (pacer.outcomes machine commands)

@[simp]
theorem exchanges_nil (machine : Machine σ ε) (pacer : Pacer σ) :
    pacer.exchanges machine [] = [] :=
  rfl

@[simp]
theorem exchanges_cons (machine : Machine σ ε) (pacer : Pacer σ)
    (command : Command) (rest : List Command) :
    pacer.exchanges machine (command :: rest) =
      ⟨command, (pacer.perform machine command).reply⟩ ::
        (pacer.perform machine command).pacer.exchanges machine rest :=
  rfl

end Pacer

/-! ## The balance of one transition -/

namespace Transition

variable {before after : Pacer σ} {command : Command} {reply : Reply ε}
  {results : List (Except ε Word)}

/-- All ticks but the one of a reported failure executed a word. -/
theorem length_results_eq
    (transition : Transition before command reply results after) :
    results.length =
      (executedWords results).length +
        if Exchange.failed ⟨command, reply⟩ then 1 else 0 := by
  cases transition with
  | pulseComplete words state =>
      rw [executedWords_map_ok, List.length_map]
      rfl
  | pulseFailed words cause state =>
      simp only [executedWords_append, executedWords_map_ok,
        executedWords_error, List.append_nil, List.length_append,
        List.length_map]
      rfl
  | pulseIgnored | stepIgnored | stepped | stepFailed | pause | resume
  | changeSpeed | changeCapture | forget => rfl

/-- The executed words are those that the reply accounts for. -/
theorem length_executedWords_eq
    (transition : Transition before command reply results after) :
    (executedWords results).length =
      Exchange.completedCycles ⟨command, reply⟩ +
        Exchange.interruptedCycles ⟨command, reply⟩ +
        if Exchange.stepped ⟨command, reply⟩ then 1 else 0 := by
  cases transition with
  | pulseComplete words state running complete =>
      rw [executedWords_map_ok, complete]
      rfl
  | pulseFailed words cause state =>
      rw [executedWords_append, executedWords_map_ok, executedWords_error,
        List.append_nil]
      exact (Nat.zero_add _).symm
  | pulseIgnored | stepIgnored | stepped | stepFailed | pause | resume
  | changeSpeed | changeCapture | forget => rfl

theorem pulseCount_eq
    (transition : Transition before command reply results after) :
    after.pulseCount =
      before.pulseCount + if command == .pulse then 1 else 0 := by
  cases transition <;> rfl

theorem mode_eq
    (transition : Transition before command reply results after) :
    after.pace.mode =
      Exchange.modeAfter before.pace.mode ⟨command, reply⟩ := by
  cases transition <;> rfl

end Transition

/-! ## The balance of a run -/

namespace Pacer

theorem length_tickResults (machine : Machine σ ε) (pacer : Pacer σ)
    (commands : List Command) :
    pacer.cycleCount + (pacer.tickResults machine commands).length =
      (pacer.runAll machine commands).cycleCount +
        (pacer.exchanges machine commands).countP Exchange.failed := by
  induction commands generalizing pacer with
  | nil => rfl
  | cons command rest ih =>
      have transition := transition_perform machine pacer command
      have counted := transition.cycleCount_eq
      have ticks := transition.length_results_eq
      have later := ih (pacer.perform machine command).pacer
      rw [tickResults_cons, runAll_cons, exchanges_cons, List.length_append,
        List.countP_cons]
      omega

theorem cycleCount_runAll (machine : Machine σ ε) (pacer : Pacer σ)
    (commands : List Command) :
    let exchanges := pacer.exchanges machine commands
    (pacer.runAll machine commands).cycleCount =
      pacer.cycleCount +
        ((exchanges.map Exchange.completedCycles).sum +
          (exchanges.map Exchange.interruptedCycles).sum +
          exchanges.countP Exchange.stepped) := by
  induction commands generalizing pacer with
  | nil => rfl
  | cons command rest ih =>
      have transition := transition_perform machine pacer command
      have counted := transition.cycleCount_eq
      have reported := transition.length_executedWords_eq
      have later := ih (pacer.perform machine command).pacer
      simp only [runAll_cons, exchanges_cons, List.map_cons, List.sum_cons,
        List.countP_cons] at later ⊢
      omega

theorem pulseCount_runAll (machine : Machine σ ε) (pacer : Pacer σ)
    (commands : List Command) :
    (pacer.runAll machine commands).pulseCount =
      pacer.pulseCount + commands.count .pulse := by
  induction commands generalizing pacer with
  | nil => rfl
  | cons command rest ih =>
      have counted := (transition_perform machine pacer command).pulseCount_eq
      rw [runAll_cons, ih, counted, List.count_cons]
      omega

theorem mode_runAll (machine : Machine σ ε) (pacer : Pacer σ)
    (commands : List Command) :
    (pacer.runAll machine commands).pace.mode =
      (pacer.exchanges machine commands).foldl Exchange.modeAfter
        pacer.pace.mode := by
  induction commands generalizing pacer with
  | nil => rfl
  | cons command rest ih =>
      have moved := (transition_perform machine pacer command).mode_eq
      rw [runAll_cons, ih, moved]
      rfl

theorem speed_runAll (machine : Machine σ ε) (pacer : Pacer σ)
    (commands : List Command) :
    (pacer.runAll machine commands).pace.speed =
      lastSpeed pacer.pace.speed commands := by
  induction commands generalizing pacer with
  | nil => rfl
  | cons command rest ih =>
      rw [runAll_cons, ih, (transition_perform machine pacer command).speed_eq]
      rfl

/-- Whatever is done in a run, only the capture of its configuration changes. -/
theorem config_runAll (machine : Machine σ ε) (pacer : Pacer σ)
    (commands : List Command) :
    (pacer.runAll machine commands).config =
      { pacer.config with
        capture :=
          commands.foldl Command.captureAfter pacer.config.capture } := by
  induction commands generalizing pacer with
  | nil => rfl
  | cons command rest ih =>
      rw [runAll_cons, ih,
        (transition_perform machine pacer command).config_eq]
      rfl

theorem pulseCycles_runAll (machine : Machine σ ε) (pacer : Pacer σ)
    (commands : List Command) :
    (pacer.runAll machine commands).pulseCycles =
      (lastSpeed pacer.pace.speed commands).cycles
        pacer.config.baseCycles := by
  rw [pulseCycles, speed_runAll, config_runAll]

/--
The books of every run balance.  All ticks are counted as cycles but those
that failed; all counted cycles were reported by a pulse that completed, by a
pulse that failed, or by a step; all pulses are counted.  A running pulse
executes exactly the cycles of the last speed or fails before it has, and an
ignored one executes none; a paused step executes an instruction or fails, and
an ignored one executes none.  The mode is the one that the last pause, resume
or failure left.
-/
theorem cycle_accounting (machine : Machine σ ε) (config : Config)
    (state : σ) (commands : List Command) :
    let begun := Pacer.start config state
    let final := begun.runAll machine commands
    let exchanges := begun.exchanges machine commands
    (begun.tickResults machine commands).length =
        final.cycleCount + exchanges.countP Exchange.failed ∧
      final.cycleCount =
        (exchanges.map Exchange.completedCycles).sum +
          (exchanges.map Exchange.interruptedCycles).sum +
          exchanges.countP Exchange.stepped ∧
      final.pulseCount = commands.count .pulse ∧
      (∀ earlier later, commands = earlier ++ .pulse :: later →
        let before := begun.runAll machine earlier
        let reply := (before.perform machine .pulse).reply
        let planned :=
          (lastSpeed config.initialSpeed earlier).cycles config.baseCycles
        (before.pace.mode = .running →
          reply = .pulsed ⟨.running, planned, planned⟩ ∨
            ∃ failure, reply = .failed failure ∧
              failure.cycles < planned) ∧
        (before.pace.mode = .paused →
          reply = .pulsed ⟨.paused, 0, 0⟩)) ∧
      (∀ earlier later, commands = earlier ++ .step :: later →
        let before := begun.runAll machine earlier
        let reply := (before.perform machine .step).reply
        (before.pace.mode = .running → reply = .stepped none) ∧
        (before.pace.mode = .paused →
          (∃ instruction, reply = .stepped (some instruction)) ∨
            ∃ cause, reply = .failed ⟨0, cause⟩)) ∧
      final.pace.mode = lastMode exchanges := by
  intro begun final exchanges
  refine ⟨?_, ?_, ?_, ?_, ?_, ?_⟩
  · exact (Nat.zero_add _).symm.trans
      (length_tickResults machine begun commands)
  · exact (cycleCount_runAll machine begun commands).trans (Nat.zero_add _)
  · exact (pulseCount_runAll machine begun commands).trans (Nat.zero_add _)
  · intro earlier later _ before reply planned
    have transition := transition_perform machine before .pulse
    have cycles : before.pulseCycles = planned :=
      pulseCycles_runAll machine begun earlier
    constructor
    · rw [← cycles]
      exact transition.pulse_reply_of_running
    · exact transition.pulse_reply_of_paused
  · intro earlier later _ before reply
    have transition := transition_perform machine before .step
    exact ⟨transition.step_reply_of_running,
      transition.step_reply_of_paused⟩
  · exact mode_runAll machine begun commands

end Pacer

end Chip8
