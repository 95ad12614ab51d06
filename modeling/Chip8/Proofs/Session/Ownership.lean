import Chip8.Proofs.Host.Deeds
import Chip8.Proofs.Pacer.Voices
import Chip8.Proofs.Session.Runs

/-!
# Results are given back once

A session gives back the results that it owns, and is not influenced by how
that goes.  A session is viewed without what was done with the host; then it
is paced by the verdicts alone, so two scripts that differ only in how results
can be given back come to the same views and answers, by `fulfil_alike`.  Of
the events only the warnings of the calls differ.
-/

namespace Chip8

open Host

/-! ## Views -/

namespace Session

/-- A session without what was done with the host. -/
def view (session : Session) : Pacer Nat :=
  session.mapState Callback.calls

variable (script : Nat → Call)

theorem speaksAside : (Callback.machine script).SpeaksAside := by
  intro callback event member
  rw [Callback.tick_machine] at member
  unfold Call.warnings at member
  split at member
  · rw [List.mem_singleton.mp member]
    rfl
  · cases member

/-- The ticks of a host tell of the warnings of their calls. -/
theorem attemptEvents_machine (count : Nat) (callback : Callback) :
    (Callback.machine script).attemptEvents count callback =
      warningsOf script (List.range' callback.calls count) := by
  induction count generalizing callback with
  | zero => rfl
  | succ count ih =>
      rw [Machine.attemptEvents, Callback.tick_machine, ih]
      rfl

/-! ## Results and what their views show -/

/-- The calls that a request made, by the sessions before and after it. -/
def callsBetween (before after : Session) : List Nat :=
  List.range' before.machineState.calls
    (after.machineState.calls - before.machineState.calls)

/-- A result is shown by an outcome, but for the warnings among its events. -/
structure Result.ShownBy (result : Result)
    (outcome : Outcome Nat TickError) (warnings : List Event) : Prop where
  answer : result.answer = .ofReply outcome.reply
  view : result.session.view = outcome.pacer
  voices : Voices result.events outcome.events warnings

/--
A session is paced by the verdicts, and warns of the calls it makes.  Muting
keeps the reply and the pacer, and a muted tick function is seen by its
verdicts; so only the events need the voices heard apart.
-/
theorem fulfil_shownBy (session : Session) {request : Request}
    {command : Command} (stands : request.command = .ok command) :
    let result := session.fulfil script request
    let machine := Callback.judging fun index => (script index).verdict
    result.ShownBy (session.view.perform machine command)
      (warningsOf script (callsBetween session result.session)) := by
  intro result machine
  let loud := Callback.machine script
  have muted := session.perform_muted loud command
  have viewed :
      session.view.perform machine command =
        (session.perform loud.muted command).mapState Callback.calls :=
    Pacer.perform_of_projects (Callback.judging_projects script) session
      command
  have fulfilled : result = _ := fulfil_of_command stands
  rcases ticksOf_eq_verdicts script session command with ⟨_, calls⟩
  have voices :=
    Pacer.voices_perform (speaksAside script) session command
  rw [attemptEvents_machine] at voices
  rw [fulfilled, viewed, callsBetween]
  constructor
  case answer => exact congrArg Answer.ofReply muted.reply.symm
  case view =>
    exact congrArg (Pacer.mapState Callback.calls) muted.pacer.symm
  case voices =>
    simp only [calls, Nat.add_sub_cancel_left]
    exact voices

/-- Results that differ in nothing but what was done and warned of. -/
structure Result.Alike (left right : Result) : Prop where
  answer : left.answer = right.answer
  view : left.session.view = right.session.view
  told :
    left.events.filter (fun event => event.byPacer) =
      right.events.filter (fun event => event.byPacer)

variable {script} {other : Nat → Call}

/-- Sessions with equal views and equal verdicts answer alike. -/
theorem fulfil_alike
    (same : ∀ index, (script index).verdict = (other index).verdict)
    {left right : Session} (views : left.view = right.view)
    (request : Request) :
    (left.fulfil script request).Alike (right.fulfil other request) := by
  cases stands : request.command with
  | error error =>
      rw [fulfil_of_refused stands, fulfil_of_refused stands]
      exact ⟨rfl, views, rfl⟩
  | ok command =>
      have first := fulfil_shownBy script left stands
      have second := fulfil_shownBy other right stands
      have verdicts :
          (fun index => (script index).verdict) =
            fun index => (other index).verdict := funext same
      rw [views, verdicts] at first
      constructor
      case answer => rw [first.answer, second.answer]
      case view => rw [first.view, second.view]
      case told => rw [first.voices.told, second.voices.told]

theorem fulfilAll_alike
    (same : ∀ index, (script index).verdict = (other index).verdict)
    {left right : Session} (views : left.view = right.view)
    (requests : List Request) :
    (left.fulfilAll script requests).view =
      (right.fulfilAll other requests).view := by
  induction requests generalizing left right with
  | nil => exact views
  | cons request rest ih =>
      rw [fulfilAll_cons, fulfilAll_cons]
      exact ih (fulfil_alike same views request).view

/-- Of every request the warnings are those of the calls that it makes. -/
theorem warnings_fulfil (script : Nat → Call) (session : Session)
    (request : Request) :
    let result := session.fulfil script request
    result.events.filter (fun event => !event.byPacer) =
      warningsOf script (callsBetween session result.session) := by
  intro result
  cases stands : request.command with
  | error error =>
      have refused : result = _ := fulfil_of_refused stands
      rw [refused, callsBetween, Nat.sub_self]
      rfl
  | ok command =>
      exact (fulfil_shownBy script session stands).voices.aside

/--
Results are given back once, and how that goes has no influence.  However the
calls of the tick function end, and whatever is asked of a session:

An object whose member can be read, and which has a function for giving it
back, is given back exactly once, and no other result is.  This is done right
after its member was asked for; what is done for earlier calls comes before,
and what is done for later ones comes after.

If the ways of giving results back are changed in any manner, the ticks come
to the same verdicts, the session is the same but for what was done with the
host, every further request is answered alike, and the events differ in
warnings only: there is one for each object that could not be given back.
-/
theorem results_given_back_once (script : Nat → Call)
    (requests : List Request) :
    let final := start.fulfilAll script requests
    let calls := final.machineState.calls
    let deeds := final.machineState.deeds.reverse
    (∀ index,
      deeds.count (.released index) =
        if index < calls ∧ (script index).isOwned then 1 else 0) ∧
      (∀ index, index < calls → (script index).isOwned = true →
        ∃ earlier later,
          deeds =
            earlier ++ [.called index, .asked index, .released index] ++
              later ∧
          (∀ deed ∈ earlier, deed.call < index) ∧
          ∀ deed ∈ later, index < deed.call) ∧
      (∀ request,
        let result := final.fulfil script request
        result.events.filter (fun event => !event.byPacer) =
          warningsOf script (callsBetween final result.session)) ∧
      ∀ other : Nat → Call,
        (∀ index, (other index).bare = (script index).bare) →
          let twin := start.fulfilAll other requests
          (∀ callback callback' : Callback,
            callback'.calls = callback.calls →
              ((Callback.machine other).tick callback').result =
                ((Callback.machine script).tick callback).result) ∧
          twin.view = final.view ∧
          ∀ request,
            (twin.fulfil other request).Alike
              (final.fulfil script request) := by
  intro final calls deeds
  have done : deeds = deedsOf script (List.range calls) :=
    (tickResults_eq_verdicts script requests).2
  refine ⟨?counted, ?placed, ?warned, ?uninfluenced⟩
  case counted =>
    intro index
    rw [done]
    exact count_released script calls index
  case placed =>
    intro index made owned
    rw [done, ← Call.deeds_of_isOwned owned index]
    exact exists_deeds_eq script made
  case warned =>
    intro request
    exact warnings_fulfil script final request
  case uninfluenced =>
    intro other bare twin
    have same : ∀ index, (other index).verdict = (script index).verdict :=
      fun index => Call.verdict_eq_of_bare_eq (bare index)
    have views : twin.view = final.view := fulfilAll_alike same rfl requests
    refine ⟨?_, views, fulfil_alike same views⟩
    intro callback callback' reached
    rw [Callback.tick_machine, Callback.tick_machine, reached]
    exact same callback.calls

/-- Two steps with one result that is given back and one that is not. -/
example :
    let script :=
      Call.repeating
        [.returned (.object .null .works), .returned (.object .null .absent)]
    (start.fulfilAll script [.pause, .step, .step]).machineState.deeds =
      [.asked 1, .called 1, .released 0, .asked 0, .called 0] := by
  decide +kernel

end Session

end Chip8
