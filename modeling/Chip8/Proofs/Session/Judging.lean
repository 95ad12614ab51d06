import Chip8.Proofs.Datum.Reading
import Chip8.Proofs.Session.Runs

/-!
# Calls judged in order

Pulses and steps use the calls of the tick function one after another.  A use
is a number of accepted calls, and perhaps a rejected one that ends it; the
words of the accepted calls are counted and recorded, and a rejection pauses.

The use of a pulse or a step is read off its transition, whose ticks come to
the verdicts on the next calls: `exists_uses`.
-/

namespace Chip8.Session

open Host

/-! ## Uses of calls -/

/-- What a pulse or a step makes of the next calls. -/
structure Use where
  /-- The words of the accepted calls, the first one first. -/
  words : List Word
  /-- The verdict on the call after them, if it was made and rejected. -/
  rejection : Option TickError

/-- The verdicts on the calls used, in order. -/
def Use.verdicts (use : Use) : List (Except TickError Word) :=
  use.words.map .ok ++ use.rejection.toList.map .error

/-- How a pulse or a step ends, by its use of the calls. -/
inductive Ends (before : Session) : Request → Use → Answer → Prop where
  | pulseIgnored (paused : before.pace.mode = .paused) :
      Ends before .pulse ⟨[], none⟩ (.cycles 0)
  | pulseComplete (words : List Word)
      (running : before.pace.mode = .running)
      (complete : words.length = before.pulseCycles) :
      Ends before .pulse ⟨words, none⟩ (.cycles words.length)
  | pulseStopped (words : List Word) (cause : TickError)
      (running : before.pace.mode = .running)
      (incomplete : words.length < before.pulseCycles) :
      Ends before .pulse ⟨words, some cause⟩
        (.failed (MachineFailure.message TickError.message
          ⟨words.length, cause⟩))
  | stepIgnored (running : before.pace.mode = .running) :
      Ends before .step ⟨[], none⟩ (.word none)
  | stepped (word : Word) (paused : before.pace.mode = .paused) :
      Ends before .step ⟨[word], none⟩ (.word (some word))
  | stepStopped (cause : TickError)
      (paused : before.pace.mode = .paused) :
      Ends before .step ⟨[], some cause⟩
        (.failed (MachineFailure.message TickError.message ⟨0, cause⟩))

/-- What a session keeps of a use, however its calls were judged. -/
structure Keeps (before after : Session) (use : Use) : Prop where
  /-- The accepted words are counted, the rejected call is not. -/
  cycles : after.cycleCount = before.cycleCount + use.words.length
  /-- The accepted words are recorded, if the capture is on. -/
  history :
    after.history.toList =
      ((before.rows use.words).reverse ++ before.history.toList).take
        before.history.capacity
  /-- A rejection pauses; else the mode stays the same, as the speed does. -/
  pace :
    after.pace =
      { before.pace with
        mode :=
          if use.rejection.isSome then .paused else before.pace.mode }
  config : after.config = before.config

/-- A session whose next calls are used, in the order of the script. -/
structure Uses (script : Nat → Call) (before after : Session) (use : Use) :
    Prop extends Keeps before after use where
  verdicts :
    verdictsOf script
      (List.range' before.machineState.calls use.verdicts.length) =
        use.verdicts
  calls :
    after.machineState.calls =
      before.machineState.calls + use.verdicts.length

/-! ## Uses and transitions -/

section

variable {before after : Session} {reply : Reply TickError}
  {results : List (Except TickError Word)}

/-- No words leave the history as it is. -/
theorem toList_of_rows_nil (before : Session) :
    before.history.toList =
      ((before.rows []).reverse ++ before.history.toList).take
        before.history.capacity := by
  rw [Pacer.rows_nil]
  exact (List.take_of_length_le before.history.length_le).symm

theorem exists_use_of_pulse
    (transition : Transition before .pulse reply results after) :
    ∃ use, use.verdicts = results ∧
      Ends before .pulse use (.ofReply reply) ∧ Keeps before after use := by
  cases transition with
  | pulseIgnored paused =>
      refine ⟨⟨[], none⟩, rfl, .pulseIgnored paused, ?_⟩
      exact ⟨rfl, toList_of_rows_nil before, rfl, rfl⟩
  | pulseComplete words state running complete =>
      refine ⟨⟨words, none⟩, List.append_nil _, ?_, ?_⟩
      · rw [← complete]
        exact .pulseComplete words running complete
      · have history := before.countPulse.toList_history_absorb words state
        exact ⟨rfl, history, rfl, rfl⟩
  | pulseFailed words cause state running incomplete =>
      refine ⟨⟨words, some cause⟩, rfl, ?_, ?_⟩
      · exact .pulseStopped words cause running incomplete
      · have history := before.countPulse.toList_history_absorb words state
        exact ⟨rfl, history, rfl, rfl⟩

theorem exists_use_of_step
    (transition : Transition before .step reply results after) :
    ∃ use, use.verdicts = results ∧
      Ends before .step use (.ofReply reply) ∧ Keeps before after use := by
  cases transition with
  | stepIgnored running =>
      refine ⟨⟨[], none⟩, rfl, .stepIgnored running, ?_⟩
      exact ⟨rfl, toList_of_rows_nil before, rfl, rfl⟩
  | stepped word state paused =>
      refine ⟨⟨[word], none⟩, rfl, ?_, ?_⟩
      · exact .stepped word paused
      · have history := before.toList_history_absorb [word] state
        exact ⟨rfl, history, rfl, rfl⟩
  | stepFailed cause state paused =>
      refine ⟨⟨[], some cause⟩, rfl, .stepStopped cause paused, ?_⟩
      have history := before.toList_history_absorb [] state
      exact ⟨rfl, history, rfl, rfl⟩

end

theorem uses_of_command {script : Nat → Call} {before : Session}
    {request : Request} {command : Command} {use : Use}
    (stands : request.command = .ok command)
    (verdicts :
      use.verdicts =
        before.ticksOf (Callback.machine script) command)
    (keeps :
      Keeps before
        (before.perform (Callback.machine script) command).pacer use) :
    Uses script before (before.fulfil script request).session use := by
  rcases ticksOf_eq_verdicts script before command with ⟨judged, calls⟩
  rw [fulfil_of_command stands]
  refine { keeps with verdicts := ?_, calls := ?_ }
  · rw [verdicts]
    exact judged.symm
  · rw [verdicts]
    exact calls

/-- A pulse or a step uses the next calls, in order, and ends accordingly. -/
theorem exists_uses (script : Nat → Call) (before : Session)
    {request : Request} (ticking : request = .pulse ∨ request = .step) :
    let result := before.fulfil script request
    ∃ use, Ends before request use result.answer ∧
      Uses script before result.session use := by
  rcases ticking with rfl | rfl
  · rcases exists_use_of_pulse
        (before.transition_perform (Callback.machine script) .pulse) with
      ⟨use, verdicts, ends, keeps⟩
    exact ⟨use, ends, uses_of_command rfl verdicts keeps⟩
  · rcases exists_use_of_step
        (before.transition_perform (Callback.machine script) .step) with
      ⟨use, verdicts, ends, keeps⟩
    exact ⟨use, ends, uses_of_command rfl verdicts keeps⟩

/-- The other requests use no calls; only to forget changes the history. -/
theorem fulfil_of_not_ticking (script : Nat → Call) (before : Session)
    {request : Request} (other : ¬ (request = .pulse ∨ request = .step)) :
    let after := (before.fulfil script request).session
    after.machineState = before.machineState ∧
      after.cycleCount = before.cycleCount ∧
      after.history =
        if request = .forget then
          before.history.clear
        else
          before.history := by
  cases request with
  | pulse => exact (other (.inl rfl)).elim
  | step => exact (other (.inr rfl)).elim
  | changeSpeed value =>
      cases stands : (Request.changeSpeed value).command with
      | error error =>
          rw [fulfil_of_refused stands]
          exact ⟨rfl, rfl, rfl⟩
      | ok command =>
          rcases Datum.exists_of_map_eq_ok stands with ⟨speed, _, rfl⟩
          rw [fulfil_of_command stands]
          exact ⟨rfl, rfl, rfl⟩
  | pause | resume | changeCapture | forget => exact ⟨rfl, rfl, rfl⟩

/-- The cycles of a session are the accepted ones of its calls. -/
theorem cycleCount_eq_countP (script : Nat → Call)
    (requests : List Request) :
    let final := start.fulfilAll script requests
    final.cycleCount =
      (List.range final.machineState.calls).countP fun index =>
        (script index).verdict.isOk := by
  intro final
  have counted :=
    start.cycleCount_runAll_eq_length (Callback.machine script)
      (commands requests)
  rw [← fulfilAll_eq_runAll,
    (tickResults_eq_verdicts script requests).1] at counted
  rw [length_executedWords, verdictsOf, List.countP_map] at counted
  exact counted.trans (Nat.zero_add _)

/--
Calls of the tick function are judged by what they come to, whatever the state
of the session is.  A tick accepts a call exactly if it returned a number, or
an object whose member can be read, and the number or the member is a number
that equals a word; it says that something was thrown exactly if the call or
the reading of the member threw it, and that the offered value is no word
exactly if a value was offered that denotes none.

So, however the calls end and whatever was asked of a session: its cycles are
the accepted calls so far; each pulse and each step uses the next calls in
order, counts and records the accepted ones, and ends and pauses with the
first rejected one; and no other request uses a call.
-/
theorem calls_judged_in_order (script : Nat → Call) :
    (∀ callback : Callback,
      let call := script callback.calls
      let tick := (Callback.machine script).tick callback
      tick.state.calls = callback.calls + 1 ∧
        tick.result = call.verdict ∧
        (∀ word, tick.result = .ok word ↔
          ∃ value, call.Offers value ∧ value.Denotes word) ∧
        (∀ thrown, tick.result = .error (.thrown thrown) ↔
          call.Throws thrown) ∧
        ∀ value, tick.result = .error (.notAWord value) ↔
          call.Offers value ∧ ∀ word, ¬ value.Denotes word) ∧
    ∀ requests : List Request,
      let before := start.fulfilAll script requests
      (before.cycleCount =
        (List.range before.machineState.calls).countP fun index =>
          (script index).verdict.isOk) ∧
      ∀ request,
        let result := before.fulfil script request
        if request = .pulse ∨ request = .step then
          ∃ use, Ends before request use result.answer ∧
            Uses script before result.session use
        else
          result.session.machineState = before.machineState ∧
            result.session.cycleCount = before.cycleCount ∧
            result.session.history =
              if request = .forget then
                before.history.clear
              else
                before.history := by
  constructor
  · intro callback call tick
    have ticked : tick = _ := Callback.tick_machine script callback
    rw [ticked]
    exact ⟨rfl, rfl, fun word => Call.verdict_eq_ok_iff,
      fun thrown => Call.verdict_eq_thrown_iff,
      fun value => Call.verdict_eq_notAWord_iff⟩
  · intro requests before
    refine ⟨cycleCount_eq_countP script requests, ?_⟩
    intro request result
    split
    next ticking => exact exists_uses script before ticking
    next other => exact fulfil_of_not_ticking script before other

end Chip8.Session
