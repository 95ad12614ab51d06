import Chip8.Host.Callback
import Chip8.Proofs.Binary64.Value
import Chip8.Proofs.Machine.Attempt

/-!
# What the calls of a tick function come to

A call is judged by what it returned or threw, whatever was called before:
its verdict, what is done with the host, and the warnings that come of it
depend on the call alone.  A tick takes these over from the next call, by
`tick_machine`, and any number of ticks takes them over from that many calls,
in order, by `attempt_machine`.

The verdict is a word exactly if a value is offered that denotes the word, a
failure tells what was thrown exactly if something was thrown, and otherwise
it tells the offered value: `verdict_eq_ok_iff`, `verdict_eq_thrown_iff` and
`verdict_eq_notAWord_iff`.
-/

namespace Chip8.Host

/-! ## Values that denote words -/

/-- A value denotes a word if it is a number that equals the word. -/
def Value.Denotes (value : Value) (word : Word) : Prop :=
  ∃ number, value = .number number ∧
    number.isFinite = true ∧ number.value = word.toNat

theorem wordOfNumber?_eq_some_iff {number : Binary64} {word : Word} :
    wordOfNumber? number = some word ↔
      number.isFinite = true ∧ number.value = word.toNat := by
  rw [Binary64.value_eq_natCast_iff, ← and_assoc,
    ← Binary64.whole?_eq_some_iff, wordOfNumber?]
  constructor
  · intro found
    split at found
    next whole read =>
      split at found
      next fits =>
        cases found
        have small : whole % 65536 = whole := Nat.mod_eq_of_lt fits.1
        rw [Word.toNat_ofNat, small]
        exact ⟨read, fits.2⟩
      next => cases found
    next => cases found
  · rintro ⟨read, sign⟩
    rw [read]
    simp only [Word.ofNat_toNat]
    exact if_pos ⟨word.toNat_lt, sign⟩

/-- A zero with a minus sign equals the zero word. -/
example : wordOfNumber? ⟨0x8000000000000000⟩ = some ⟨0⟩ := by
  decide +kernel

namespace Value

theorem word?_eq_some_iff {value : Value} {word : Word} :
    value.word? = some word ↔ value.Denotes word := by
  cases value with
  | number number =>
      rw [word?, wordOfNumber?_eq_some_iff]
      constructor
      · intro equal
        exact ⟨number, rfl, equal⟩
      · rintro ⟨other, same, equal⟩
        cases same
        exact equal
  | undefined | null | bool | text | object | guarded =>
      constructor
      · intro found
        cases found
      · rintro ⟨number, same, equal⟩
        cases same

theorem word?_eq_none_iff {value : Value} :
    value.word? = none ↔ ∀ word, ¬ value.Denotes word := by
  rw [Option.eq_none_iff_forall_ne_some]
  exact forall_congr' fun word => not_congr word?_eq_some_iff

end Value

namespace Call

/-! ## What a call offers and what it throws -/

/-- The value in which a word is looked for. -/
inductive Offers : Call → Value → Prop where
  | number (number : Binary64) :
      Offers (.returned (.number number)) (.number number)
  | member (opCode : Value) (release : Release) :
      Offers (.returned (.object opCode release)) opCode

/-- What is thrown by a call, or by reading the member of what it returned. -/
inductive Throws : Call → Value → Prop where
  | call (value : Value) : Throws (.threw value) value
  | member (thrown : Value) (release : Release) :
      Throws (.returned (.guarded thrown release)) thrown
  /-- Of a value that is neither a number nor an object nothing is read. -/
  | noObject {value : Value}
      (unnumbered : ∀ number, value ≠ .number number)
      (memberless : ∀ opCode release, value ≠ .object opCode release)
      (unguarded : ∀ thrown release, value ≠ .guarded thrown release) :
      Throws (.returned value) (.text "Reflect.get called on non-object")

/-- The verdict on a call: its word, or why it brought none. -/
def verdict (call : Call) : Except TickError Word :=
  (Callback.tick (fun _ => call) .start).result

theorem verdict_of_offers {call : Call} {value : Value}
    (offers : call.Offers value) :
    call.verdict = Callback.wordOf value := by
  cases offers with
  | number number => rfl
  | member opCode release => rfl

theorem verdict_of_throws {call : Call} {value : Value}
    (throws : call.Throws value) :
    call.verdict = .error (.thrown value) := by
  cases throws with
  | call => rfl
  | member => rfl
  | @noObject value unnumbered memberless unguarded =>
      cases value with
      | number number => exact (unnumbered number rfl).elim
      | object opCode release => exact (memberless opCode release rfl).elim
      | guarded thrown release => exact (unguarded thrown release rfl).elim
      | undefined | null | bool | text => rfl

/-- Every call offers a value, or something is thrown. -/
theorem offers_or_throws (call : Call) :
    (∃ value, call.Offers value) ∨ ∃ value, call.Throws value := by
  cases call with
  | threw value => exact .inr ⟨value, .call value⟩
  | returned value =>
      cases value with
      | number number => exact .inl ⟨_, .number number⟩
      | object opCode release => exact .inl ⟨_, .member opCode release⟩
      | guarded thrown release => exact .inr ⟨_, .member thrown release⟩
      | undefined | null | bool | text =>
          refine .inr ⟨_, .noObject ?_ ?_ ?_⟩ <;> nofun

/-! ## The three verdicts -/

theorem wordOf_eq_ok_iff {value : Value} {word : Word} :
    Callback.wordOf value = .ok word ↔ value.Denotes word := by
  rw [← Value.word?_eq_some_iff, Callback.wordOf]
  cases value.word? with
  | none => simp only [reduceCtorEq]
  | some other => simp only [Except.ok.injEq, Option.some.injEq]

theorem wordOf_eq_notAWord_iff {value other : Value} :
    Callback.wordOf value = .error (.notAWord other) ↔
      value = other ∧ ∀ word, ¬ value.Denotes word := by
  rw [← Value.word?_eq_none_iff, Callback.wordOf]
  cases value.word? with
  | none =>
      simp only [Except.error.injEq, TickError.notAWord.injEq, and_true]
  | some word => simp only [reduceCtorEq, and_false]

theorem wordOf_ne_thrown {value thrown : Value} :
    Callback.wordOf value ≠ .error (.thrown thrown) := by
  rw [Callback.wordOf]
  cases value.word? <;> nofun

/-- A call is accepted exactly if it offers a value that denotes a word. -/
theorem verdict_eq_ok_iff {call : Call} {word : Word} :
    call.verdict = .ok word ↔
      ∃ value, call.Offers value ∧ value.Denotes word := by
  constructor
  · intro accepted
    rcases call.offers_or_throws with ⟨value, offers⟩ | ⟨value, throws⟩
    · rw [verdict_of_offers offers, wordOf_eq_ok_iff] at accepted
      exact ⟨value, offers, accepted⟩
    · rw [verdict_of_throws throws] at accepted
      cases accepted
  · rintro ⟨value, offers, denotes⟩
    rw [verdict_of_offers offers, wordOf_eq_ok_iff]
    exact denotes

theorem verdict_eq_thrown_iff {call : Call} {thrown : Value} :
    call.verdict = .error (.thrown thrown) ↔ call.Throws thrown := by
  constructor
  · intro rejected
    rcases call.offers_or_throws with ⟨value, offers⟩ | ⟨value, throws⟩
    · rw [verdict_of_offers offers] at rejected
      exact (wordOf_ne_thrown rejected).elim
    · rw [verdict_of_throws throws] at rejected
      cases rejected
      exact throws
  · exact verdict_of_throws

theorem verdict_eq_notAWord_iff {call : Call} {value : Value} :
    call.verdict = .error (.notAWord value) ↔
      call.Offers value ∧ ∀ word, ¬ value.Denotes word := by
  constructor
  · intro rejected
    rcases call.offers_or_throws with ⟨other, offers⟩ | ⟨other, throws⟩
    · rw [verdict_of_offers offers, wordOf_eq_notAWord_iff] at rejected
      rcases rejected with ⟨rfl, wordless⟩
      exact ⟨offers, wordless⟩
    · rw [verdict_of_throws throws] at rejected
      cases rejected
  · rintro ⟨offers, wordless⟩
    rw [verdict_of_offers offers, wordOf_eq_notAWord_iff]
    exact ⟨rfl, wordless⟩

/-! ## What is done with the host -/

/-- Whether the member for the word is asked of what a call returned. -/
def asks : Call → Bool
  | .threw _ => false
  | .returned (.number _) => false
  | .returned _ => true

/--
Whether a call returned an object to be given back: its member for the word
can be read, and it has a function for giving it back.
-/
def isOwned : Call → Bool
  | .returned (.object _ .works) => true
  | .returned (.object _ (.fails _)) => true
  | _ => false

/-- All that is done for a call with a given index, in order. -/
def deeds (call : Call) (index : Nat) : List Deed :=
  .called index ::
    ((if call.asks then [.asked index] else []) ++
      (if call.isOwned then [.released index] else []))

/-- The events by which a call is told of. -/
def warnings : Call → List Event
  | .returned (.object _ (.fails reason)) => [.releaseFailed reason]
  | _ => []

theorem asks_of_isOwned {call : Call} (owned : call.isOwned = true) :
    call.asks = true := by
  cases call with
  | threw value => cases owned
  | returned value =>
      cases value with
      | object opCode release => rfl
      | undefined | null | bool | number | text | guarded => cases owned

end Call

/-! ## Some calls of a script, one after another -/

/-- The verdicts on the calls with some indices. -/
def verdictsOf (script : Nat → Call) (indices : List Nat) :
    List (Except TickError Word) :=
  indices.map fun index => (script index).verdict

/-- What the calls with some indices do with the host, oldest first. -/
def deedsOf (script : Nat → Call) (indices : List Nat) : List Deed :=
  indices.flatMap fun index => (script index).deeds index

/-- What is told of the calls with some indices. -/
def warningsOf (script : Nat → Call) (indices : List Nat) : List Event :=
  indices.flatMap fun index => (script index).warnings

namespace Callback

/-! ## Ticks -/

/-- A tick takes over from the next call, whatever was called before. -/
theorem tick_machine (script : Nat → Call) (callback : Callback) :
    (machine script).tick callback =
      { result := (script callback.calls).verdict
        state :=
          { calls := callback.calls + 1
            deeds :=
              ((script callback.calls).deeds callback.calls).reverse ++
                callback.deeds }
        events := (script callback.calls).warnings } := by
  change tick script callback = _
  rw [tick]
  generalize script callback.calls = call
  cases call with
  | threw value => rfl
  | returned value =>
      cases value with
      | object opCode release => cases release <;> rfl
      | undefined | null | bool | number | text | guarded => rfl

/-- Any number of ticks takes over from so many calls, in order. -/
theorem attempt_machine (script : Nat → Call) (count : Nat)
    (callback : Callback) :
    let indices := List.range' callback.calls count
    (machine script).attempt count callback =
      { state :=
          { calls := callback.calls + count
            deeds := (deedsOf script indices).reverse ++ callback.deeds }
        results := verdictsOf script indices } := by
  induction count generalizing callback with
  | zero => rfl
  | succ count ih =>
      rw [Machine.attempt_succ, tick_machine, ih]
      simp only [deedsOf, verdictsOf, List.range'_succ, List.flatMap_cons,
        List.reverse_append, List.map_cons, List.append_assoc,
        Nat.add_right_comm, Nat.add_assoc]
      rfl

end Callback

end Chip8.Host
