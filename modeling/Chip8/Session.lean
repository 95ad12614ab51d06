import Chip8.Host.Callback
import Chip8.Pacer.Command
import Chip8.Speed.Approximation

/-!
# Sessions of a host

A session paces the tick function of a host in the standard configuration.
Its host sees numbers and texts only: speeds are floating-point numbers, and
every failure is a text.
-/

namespace Chip8

/-- The pacer of a tick function. -/
abbrev Session :=
  Pacer Host.Callback

namespace Session

/-- Something that the host asks of a session. -/
inductive Request where
  | pulse
  | step
  | pause
  | resume
  | changeSpeed (value : Binary64)
  | changeCapture (capture : Bool)
  | forget
deriving DecidableEq, Repr

/-- What the host is told in return. -/
inductive Answer where
  | cycles (count : Nat)
  /-- The word that a step executed, if it executed one. -/
  | word (word : Option Word)
  | done
  | failed (message : String)
deriving DecidableEq, Repr

/--
What a request brings: an answer, the session after it, and what was told on
the way.
-/
structure Result where
  answer : Answer
  session : Session
  events : List Event

/-- A session in which nothing has been asked for. -/
def start : Session :=
  Pacer.start .standard Host.Callback.start

/-- The answer that a reply of the pacer comes down to. -/
def Answer.ofReply : Reply Host.TickError → Answer
  | .pulsed summary => .cycles summary.executed
  | .stepped instruction => .word (instruction.map (·.word))
  | .done => .done
  | .failed failure => .failed (failure.message Host.TickError.message)

/-- The command that a request stands for; a speed has to be acceptable. -/
def Request.command : Request → Except SpeedError Command
  | .pulse => .ok .pulse
  | .step => .ok .step
  | .pause => .ok .pause
  | .resume => .ok .resume
  | .changeSpeed value => (Speed.ofBinary64 value).map .changeSpeed
  | .changeCapture capture => .ok (.changeCapture capture)
  | .forget => .ok .forget

/-- Fulfil a request with a tick function whose calls end as a script says. -/
def fulfil (script : Nat → Host.Call) (session : Session)
    (request : Request) : Result :=
  match request.command with
  | .error error => ⟨.failed error.message, session, []⟩
  | .ok command =>
      let outcome := session.perform (Host.Callback.machine script) command
      ⟨.ofReply outcome.reply, outcome.pacer, outcome.events⟩

/-- The session after some requests. -/
def fulfilAll (script : Nat → Host.Call) (session : Session)
    (requests : List Request) : Session :=
  requests.foldl (fun session request =>
    (session.fulfil script request).session) session

/-- The speed in force, as its host sees it. -/
def speed (session : Session) : Binary64 :=
  session.pace.speed.toBinary64

end Session

end Chip8
