import Chip8.Machine.Basic

/-!
# Stretches of ticks

A stretch is what a number of consecutive ticks comes to: the words that they
executed, up to the first failure.  It depends on the machine alone, so that
every way of pacing a machine can be measured by the same stretches.

`stretch_add` cuts a stretch at any tick, and the remaining lemmas say how a
stretch goes on after a part that went well and after a part that failed.
-/

namespace Chip8

/-- What some consecutive ticks come to. -/
structure Stretch (σ ε : Type) where
  /-- The executed words, the oldest first. -/
  words : List Word
  /-- The failure that ended the stretch, if one did. -/
  failure : Option ε
  state : σ

namespace Stretch

variable {σ ε : Type}

/-- The stretch that executes one more word before. -/
def precede (word : Word) (stretch : Stretch σ ε) : Stretch σ ε :=
  { stretch with words := word :: stretch.words }

/-- What each tick of a stretch came to, the failing one included. -/
def results (stretch : Stretch σ ε) : List (Except ε Word) :=
  stretch.words.map .ok ++ stretch.failure.toList.map .error

@[simp]
theorem words_precede (word : Word) (stretch : Stretch σ ε) :
    (stretch.precede word).words = word :: stretch.words :=
  rfl

@[simp]
theorem failure_precede (word : Word) (stretch : Stretch σ ε) :
    (stretch.precede word).failure = stretch.failure :=
  rfl

@[simp]
theorem state_precede (word : Word) (stretch : Stretch σ ε) :
    (stretch.precede word).state = stretch.state :=
  rfl

@[simp]
theorem results_precede (word : Word) (stretch : Stretch σ ε) :
    (stretch.precede word).results = .ok word :: stretch.results :=
  rfl

end Stretch

namespace Machine

variable {σ ε : Type}

/-- Tick a machine a number of times, up to the first failure. -/
def stretch (machine : Machine σ ε) : Nat → σ → Stretch σ ε
  | 0, state => ⟨[], none, state⟩
  | cycles + 1, state =>
      let tick := machine.tick state
      match tick.result with
      | .ok word => (machine.stretch cycles tick.state).precede word
      | .error cause => ⟨[], some cause, tick.state⟩

/--
The events of a stretch whose words are observed; the last tick of a stretch
that failed has its own events only.
-/
def stretchEvents (machine : Machine σ ε) (observe : Word → List Event) :
    Nat → σ → List Event
  | 0, _ => []
  | cycles + 1, state =>
      let tick := machine.tick state
      match tick.result with
      | .ok word =>
          tick.events ++ observe word ++
            machine.stretchEvents observe cycles tick.state
      | .error _ => tick.events

@[simp]
theorem stretch_zero (machine : Machine σ ε) (state : σ) :
    machine.stretch 0 state = ⟨[], none, state⟩ :=
  rfl

theorem stretch_succ_of_ok {machine : Machine σ ε} {state : σ}
    {word : Word} (executed : (machine.tick state).result = .ok word)
    (cycles : Nat) :
    machine.stretch (cycles + 1) state =
      (machine.stretch cycles (machine.tick state).state).precede word := by
  simp only [stretch, executed]

theorem stretch_succ_of_error {machine : Machine σ ε} {state : σ}
    {cause : ε} (failed : (machine.tick state).result = .error cause)
    (cycles : Nat) :
    machine.stretch (cycles + 1) state =
      ⟨[], some cause, (machine.tick state).state⟩ := by
  simp only [stretch, failed]

/-- A stretch without a failure executes as many words as it has ticks. -/
theorem length_words_of_complete {machine : Machine σ ε} {cycles : Nat}
    {state : σ} (complete : (machine.stretch cycles state).failure = none) :
    (machine.stretch cycles state).words.length = cycles := by
  induction cycles generalizing state with
  | zero => rfl
  | succ cycles ih =>
      cases result : (machine.tick state).result with
      | ok word =>
          rw [stretch_succ_of_ok result] at complete ⊢
          rw [Stretch.words_precede, List.length_cons, ih complete]
      | error cause =>
          rw [stretch_succ_of_error result] at complete
          cases complete

/-- A stretch with a failure executes fewer words than were asked for. -/
theorem length_words_lt_of_failure {machine : Machine σ ε} {cycles : Nat}
    {state : σ} {cause : ε}
    (failed : (machine.stretch cycles state).failure = some cause) :
    (machine.stretch cycles state).words.length < cycles := by
  induction cycles generalizing state with
  | zero => cases failed
  | succ cycles ih =>
      cases result : (machine.tick state).result with
      | ok word =>
          rw [stretch_succ_of_ok result] at failed ⊢
          exact Nat.succ_lt_succ (ih failed)
      | error other =>
          rw [stretch_succ_of_error result]
          exact Nat.zero_lt_succ cycles

/-- The ticks after a stretch without a failure go on from its state. -/
theorem stretch_add {machine : Machine σ ε} {cycles : Nat} {state : σ}
    (complete : (machine.stretch cycles state).failure = none)
    (more : Nat) :
    machine.stretch (cycles + more) state =
      let first := machine.stretch cycles state
      let second := machine.stretch more first.state
      ⟨first.words ++ second.words, second.failure, second.state⟩ := by
  induction cycles generalizing state with
  | zero => rw [Nat.zero_add]; rfl
  | succ cycles ih =>
      rw [Nat.add_right_comm]
      cases result : (machine.tick state).result with
      | ok word =>
          rw [stretch_succ_of_ok result] at complete ⊢
          rw [stretch_succ_of_ok result, ih complete]
          rfl
      | error cause =>
          rw [stretch_succ_of_error result] at complete
          cases complete

/-- A failure ends a stretch, however many more ticks were asked for. -/
theorem stretch_of_failure {machine : Machine σ ε} {cycles : Nat}
    {state : σ} {cause : ε}
    (failed : (machine.stretch cycles state).failure = some cause)
    {longer : Nat} (le : cycles ≤ longer) :
    machine.stretch longer state = machine.stretch cycles state := by
  induction cycles generalizing state longer with
  | zero => cases failed
  | succ cycles ih =>
      obtain ⟨rest, rfl⟩ := Nat.exists_eq_add_of_le' le
      rw [← Nat.add_assoc]
      cases result : (machine.tick state).result with
      | ok word =>
          rw [stretch_succ_of_ok result] at failed
          rw [stretch_succ_of_ok result, stretch_succ_of_ok result,
            ih failed (Nat.le_add_left cycles rest)]
      | error other =>
          rw [stretch_succ_of_error result, stretch_succ_of_error result]

/--
The tick that ended a stretch comes right after the executed words: they are a
stretch of their own, and the tick after it failed.
-/
theorem stretch_before_failure {machine : Machine σ ε} {cycles : Nat}
    {state : σ} {cause : ε}
    (failed : (machine.stretch cycles state).failure = some cause) :
    let whole := machine.stretch cycles state
    let before := machine.stretch whole.words.length state
    before.failure = none ∧ before.words = whole.words ∧
      (machine.tick before.state).result = .error cause ∧
      (machine.tick before.state).state = whole.state := by
  induction cycles generalizing state with
  | zero => cases failed
  | succ cycles ih =>
      cases result : (machine.tick state).result with
      | ok word =>
          rw [stretch_succ_of_ok result] at failed ⊢
          obtain ⟨complete, words, last, final⟩ := ih failed
          simp only [Stretch.words_precede, List.length_cons,
            stretch_succ_of_ok result, Stretch.failure_precede,
            Stretch.state_precede]
          exact ⟨complete, by rw [words], last, final⟩
      | error other =>
          rw [stretch_succ_of_error result] at failed ⊢
          cases failed
          exact ⟨rfl, rfl, result, rfl⟩

/-- A stretch that goes on past a failing tick ends with it. -/
theorem stretch_past_failure {machine : Machine σ ε} {cycles : Nat}
    {state : σ} {cause : ε}
    (complete : (machine.stretch cycles state).failure = none)
    (failed :
      (machine.tick (machine.stretch cycles state).state).result =
        .error cause)
    {longer : Nat} (lt : cycles < longer) :
    machine.stretch longer state =
      let before := machine.stretch cycles state
      ⟨before.words, some cause, (machine.tick before.state).state⟩ := by
  have next := stretch_add complete 1
  simp only [stretch_succ_of_error failed, List.append_nil] at next
  have ended : (machine.stretch (cycles + 1) state).failure = some cause := by
    rw [next]
  rw [stretch_of_failure ended lt, next]

end Machine

end Chip8
