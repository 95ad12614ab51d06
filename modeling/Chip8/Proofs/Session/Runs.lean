import Chip8.Proofs.Host.Verdict
import Chip8.Proofs.Pacer.Pacing
import Chip8.Session

/-!
# Sessions as runs

A request stands for a command, unless its speed is refused; then it leaves
the session as it is.  So a session is a run of a pacer, by
`fulfilAll_eq_runAll`, and what holds of runs holds of sessions.

The calls of the tick function are counted, and each is judged by itself, so
what the ticks of a request and of a whole session come to is found by looking
up the script: `ticksOf_eq_verdicts` and `tickResults_eq_verdicts`.
-/

namespace Chip8.Session

open Host

variable {script : Nat → Call} {session : Session}

/-! ## Requests and their commands -/

theorem fulfil_of_command {request : Request} {command : Command}
    (stands : request.command = .ok command) :
    session.fulfil script request =
      let outcome := session.perform (Callback.machine script) command
      ⟨.ofReply outcome.reply, outcome.pacer, outcome.events⟩ := by
  simp only [fulfil, stands]

theorem fulfil_of_refused {request : Request} {error : SpeedError}
    (refused : request.command = .error error) :
    session.fulfil script request = ⟨.failed error.message, session, []⟩ := by
  simp only [fulfil, refused]

/-- The commands that some requests stand for, the refused ones left out. -/
def commands (requests : List Request) : List Command :=
  requests.filterMap fun request => request.command.toOption

theorem commands_cons_of_command {request : Request} {command : Command}
    (stands : request.command = .ok command) (rest : List Request) :
    commands (request :: rest) = command :: commands rest := by
  simp only [commands, List.filterMap_cons, stands, Except.toOption]

theorem commands_cons_of_refused {request : Request} {error : SpeedError}
    (refused : request.command = .error error) (rest : List Request) :
    commands (request :: rest) = commands rest := by
  simp only [commands, List.filterMap_cons, refused, Except.toOption]

@[simp]
theorem fulfilAll_cons (script : Nat → Call) (session : Session)
    (request : Request) (rest : List Request) :
    session.fulfilAll script (request :: rest) =
      (session.fulfil script request).session.fulfilAll script rest :=
  rfl

/-- What every request keeps holds after any requests. -/
theorem fulfilAll_induction {motive : Session → Prop}
    (script : Nat → Call)
    (keeps :
      ∀ session request, motive session →
        motive (session.fulfil script request).session)
    {session : Session} (begun : motive session)
    (requests : List Request) :
    motive (session.fulfilAll script requests) := by
  induction requests generalizing session with
  | nil => exact begun
  | cons request rest ih => exact ih (keeps session request begun)

/-- A session is a run of the commands that its requests stand for. -/
theorem fulfilAll_eq_runAll (script : Nat → Call) (session : Session)
    (requests : List Request) :
    session.fulfilAll script requests =
      session.runAll (Callback.machine script) (commands requests) := by
  induction requests generalizing session with
  | nil => rfl
  | cons request rest ih =>
      rw [fulfilAll_cons, ih]
      cases stands : request.command with
      | ok command =>
          rw [fulfil_of_command stands, commands_cons_of_command stands]
          rfl
      | error error =>
          rw [fulfil_of_refused stands, commands_cons_of_refused stands]

/-! ## The calls of a request and of a session -/

/-- A command makes the next calls, and its ticks come to their verdicts. -/
theorem ticksOf_eq_verdicts (script : Nat → Call) (session : Session)
    (command : Command) :
    let machine := Callback.machine script
    let ticks := session.ticksOf machine command
    let after := (session.perform machine command).pacer
    let calls := session.machineState.calls
    ticks = verdictsOf script (List.range' calls ticks.length) ∧
      after.machineState.calls = calls + ticks.length := by
  intro machine ticks after calls
  have attempts := session.attempt_ticksOf machine command
  rw [Callback.attempt_machine, Traced.mk.injEq] at attempts
  rcases attempts with ⟨states, results⟩
  exact ⟨results.symm, (congrArg Callback.calls states).symm⟩

/-- A session has made as many calls as ticks, and done what they ask for. -/
theorem tickResults_eq_verdicts (script : Nat → Call)
    (requests : List Request) :
    let machine := Callback.machine script
    let final := (start.fulfilAll script requests).machineState
    let indices := List.range final.calls
    start.tickResults machine (commands requests) =
        verdictsOf script indices ∧
      final.deeds.reverse = deedsOf script indices := by
  intro machine final indices
  have attempts := start.attempt_tickResults machine (commands requests)
  rw [Callback.attempt_machine, Traced.mk.injEq,
    ← fulfilAll_eq_runAll] at attempts
  rcases attempts with ⟨states, results⟩
  have fresh : indices = List.range' 0 final.calls := List.range_eq_range'
  have calls : 0 + _ = final.calls := congrArg Callback.calls states
  have deeds : _ ++ [] = final.deeds := congrArg Callback.deeds states
  rw [Nat.zero_add] at calls
  rw [calls] at results deeds
  rw [List.append_nil] at deeds
  rw [fresh, ← deeds, List.reverse_reverse]
  exact ⟨results.symm, rfl⟩

end Chip8.Session
