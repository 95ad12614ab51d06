import Chip8.Host.Value
import Chip8.Machine.Basic

/-!
# Machines of a host

The tick function of a host is a machine.  It returns a word as a number, or
an object with the word as a member.  Once the member of an object is read the
object is given back, whether or not the member denotes a word; a failure to
give it back is told by an event and changes nothing else.
-/

namespace Chip8.Host

/-- How a call of the tick function ends. -/
inductive Call where
  | returned (value : Value)
  | threw (value : Value)
deriving DecidableEq, Repr

/-- Some calls, over and over; without any, nothing is returned. -/
def Call.repeating (calls : List Call) (index : Nat) : Call :=
  calls[index % calls.length]?.getD (.returned .undefined)

/-- Why a tick of the host brought no word. -/
inductive TickError where
  /-- The call, or reading the member for the word, threw a value. -/
  | thrown (value : Value)
  /-- The value that should denote a word does not. -/
  | notAWord (value : Value)
deriving DecidableEq, Repr

/-- The text of an error describes the value that caused it. -/
def TickError.message : TickError → String
  | .thrown value => "tick function threw: " ++ value.describe
  | .notAWord value =>
      "tick function returned " ++ value.describe ++
        ", expected an opcode in 0..=0xFFFF"

/-- Something that a tick does with the host; calls are counted from zero. -/
inductive Deed where
  | called (call : Nat)
  /-- The member for the word was asked of what a call returned. -/
  | asked (call : Nat)
  /-- The object that a call returned was given back. -/
  | released (call : Nat)
deriving DecidableEq, Repr

/-- Whether an object was given back. -/
def Deed.releases : Deed → Bool
  | .released _ => true
  | _ => false

/-- What the tick function has been through. -/
structure Callback where
  calls : Nat
  /-- All that was done with the host, newest first. -/
  deeds : List Deed
deriving DecidableEq, Repr

namespace Callback

/-- A tick function that has not been called. -/
def start : Callback :=
  ⟨0, []⟩

/-- How many objects were given back, or tried to be. -/
def releases (callback : Callback) : Nat :=
  callback.deeds.countP Deed.releases

/-- Put a deed on record. -/
def note (callback : Callback) (deed : Deed) : Callback :=
  { callback with deeds := deed :: callback.deeds }

/-- Whether giving a value back calls a function of its own. -/
def callsRelease : Release → Bool
  | .works => true
  | .fails _ => true
  | _ => false

/-- What is told of an object that could not be given back. -/
def releaseEvents : Release → List Event
  | .fails reason => [.releaseFailed reason]
  | _ => []

/-- Give back the value that the call with a given index returned. -/
def giveBack (callback : Callback) (index : Nat) (release : Release) :
    Callback :=
  if callsRelease release then
    callback.note (.released index)
  else
    callback

/-- The word of a value, or the value itself as an error. -/
def wordOf (value : Value) : Except TickError Word :=
  match value.word? with
  | some word => .ok word
  | none => .error (.notAWord value)

/-- What a returned value means for the tick that returned it. -/
def receive (callback : Callback) (index : Nat) (value : Value) :
    Tick Callback TickError :=
  match value with
  | .number _ => ⟨wordOf value, callback, []⟩
  | _ =>
      let asking := callback.note (.asked index)
      match value.opCode with
      | .error thrown => ⟨.error (.thrown thrown), asking, []⟩
      | .ok opCode =>
          ⟨wordOf opCode, asking.giveBack index value.release,
            releaseEvents value.release⟩

/-- Call the tick function and count the call. -/
def call (callback : Callback) : Callback where
  calls := callback.calls + 1
  deeds := .called callback.calls :: callback.deeds

/-- Call the tick function once, and take what comes of the call. -/
def tick (script : Nat → Call) (callback : Callback) :
    Tick Callback TickError :=
  match script callback.calls with
  | .threw value => ⟨.error (.thrown value), callback.call, []⟩
  | .returned value => callback.call.receive callback.calls value

/-- The machine of a tick function whose calls end as a script says. -/
def machine (script : Nat → Call) : Machine Callback TickError where
  tick := tick script
  describe := TickError.message

end Callback

end Chip8.Host
