import Chip8.Binary64.Shortest
import Chip8.Word

/-!
# Values of a host

A host with dynamic values hands over whatever its tick function returns or
throws.  A value denotes a word when it is a number equal to an integer of
sixteen bits.
-/

namespace Chip8.Host

/-- What an object offers for giving it back. -/
inductive Release where
  | absent
  /-- A function that gives the object back. -/
  | works
  /-- A function that throws when it is called. -/
  | fails (reason : String)
  /-- A member that is no function. -/
  | notCallable
  /-- A member that cannot be read. -/
  | unreadable
deriving DecidableEq, Repr

/-- What a host hands over: a value without properties, or an object. -/
inductive Value where
  | undefined
  | null
  | bool (value : Bool)
  | number (value : Binary64)
  | text (value : String)
  /-- An object with a member for the word. -/
  | object (opCode : Value) (release : Release)
  /-- An object that throws when the member for the word is read. -/
  | guarded (thrown : Value) (release : Release)
deriving DecidableEq, Repr

namespace Value

/-- The inside of the text of a value that is no text. -/
def inner : Value → String
  | .undefined => "undefined"
  | .null => "null"
  | .bool true => "true"
  | .bool false => "false"
  | .number value => value.text
  | .text value => value
  | .object .. => "Object"
  | .guarded .. => "Object"

/-- A value in the words of an error; a text is shown as it is. -/
def describe : Value → String
  | .text value => value
  | other => "JsValue(" ++ other.inner ++ ")"

/-- Read the member for the word; what is thrown instead is the error. -/
def opCode : Value → Except Value Value
  | .object opCode _ => .ok opCode
  | .guarded thrown _ => .error thrown
  | _ => .error (.text "Reflect.get called on non-object")

/-- What a value offers for giving it back; only objects offer anything. -/
def release : Value → Release
  | .object _ release => release
  | .guarded _ release => release
  | _ => .absent

end Value

/-- The word that a number equals; zero may carry a minus sign. -/
def wordOfNumber? (number : Binary64) : Option Word :=
  match number.whole? with
  | some value =>
      if value < UInt16.size ∧ (number.isNegative = false ∨ value = 0) then
        some (.ofNat value)
      else
        none
  | none => none

/-- The word that a value denotes; only numbers denote words. -/
def Value.word? : Value → Option Word
  | .number value => wordOfNumber? value
  | _ => none

end Chip8.Host
