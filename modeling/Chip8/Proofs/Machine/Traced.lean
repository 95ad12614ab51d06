import Chip8.Proofs.Machine.Stretch

/-!
# Traced machines

Tracing a machine writes down what each of its ticks comes to, and changes
nothing else.  The ticks of any run, whoever asked for them, can thus be read
off the state of the traced machine.

One machine projects to another if a function of states commutes with their
ticks.  A traced machine projects to the machine itself, and to itself with
earlier results put before the trace.
-/

namespace Chip8

variable {σ τ ε : Type}

/-- The same tick with its state seen through a function. -/
def Tick.mapState (view : σ → τ) (tick : Tick σ ε) : Tick τ ε where
  result := tick.result
  state := view tick.state
  events := tick.events

/-- The same stretch with its state seen through a function. -/
def Stretch.mapState (view : σ → τ) (stretch : Stretch σ ε) :
    Stretch τ ε where
  words := stretch.words
  failure := stretch.failure
  state := view stretch.state

namespace Machine

/-! ## Projections -/

/-- The ticks of two machines differ in nothing but a view of the state. -/
structure Projects (view : σ → τ) (inner : Machine σ ε)
    (outer : Machine τ ε) : Prop where
  tick (state : σ) :
    outer.tick (view state) = (inner.tick state).mapState view
  describe : outer.describe = inner.describe

variable {view : σ → τ} {inner : Machine σ ε} {outer : Machine τ ε}

theorem Projects.stretch (projects : Projects view inner outer)
    (cycles : Nat) (state : σ) :
    outer.stretch cycles (view state) =
      (inner.stretch cycles state).mapState view := by
  induction cycles generalizing state with
  | zero => rfl
  | succ cycles ih =>
      simp only [Machine.stretch, projects.tick, Tick.mapState]
      cases (inner.tick state).result with
      | ok word =>
          rw [ih]
          rfl
      | error cause => rfl

theorem Projects.stretchEvents (projects : Projects view inner outer)
    (observe : Word → List Event) (cycles : Nat) (state : σ) :
    outer.stretchEvents observe cycles (view state) =
      inner.stretchEvents observe cycles state := by
  induction cycles generalizing state with
  | zero => rfl
  | succ cycles ih =>
      simp only [Machine.stretchEvents, projects.tick, Tick.mapState]
      cases (inner.tick state).result with
      | ok word => rw [ih]
      | error cause => rfl

end Machine

/-! ## Traces -/

/-- The state of a machine with what its ticks have come to. -/
structure Traced (σ ε : Type) where
  state : σ
  /-- What the ticks came to, the first one first. -/
  results : List (Except ε Word)

namespace Traced

/-- A state with nothing written down. -/
def start (state : σ) : Traced σ ε :=
  ⟨state, []⟩

/-- The same trace after some earlier results. -/
def after (earlier : List (Except ε Word)) (traced : Traced σ ε) :
    Traced σ ε :=
  { traced with results := earlier ++ traced.results }

end Traced

namespace Machine

/-- The machine that writes down what its ticks come to. -/
def traced (machine : Machine σ ε) : Machine (Traced σ ε) ε where
  tick before :=
    let tick := machine.tick before.state
    { result := tick.result
      state := ⟨tick.state, before.results ++ [tick.result]⟩
      events := tick.events }
  describe := machine.describe

theorem traced_projects (machine : Machine σ ε) :
    Projects Traced.state machine.traced machine where
  tick _ := rfl
  describe := rfl

theorem traced_projects_after (machine : Machine σ ε)
    (earlier : List (Except ε Word)) :
    Projects (Traced.after earlier) machine.traced machine.traced where
  tick before := by
    simp only [traced, Traced.after, Tick.mapState, List.append_assoc]
  describe := rfl

/-- A stretch of a traced machine writes down the results of the stretch. -/
theorem stretch_traced (machine : Machine σ ε) (cycles : Nat)
    (before : Traced σ ε) :
    machine.traced.stretch cycles before =
      (machine.stretch cycles before.state).mapState fun state =>
        ⟨state,
          before.results ++ (machine.stretch cycles before.state).results⟩ := by
  induction cycles generalizing before with
  | zero =>
      simp only [stretch_zero, Stretch.mapState, Stretch.results,
        List.map_nil, Option.toList_none, List.append_nil]
  | succ cycles ih =>
      cases result : (machine.tick before.state).result with
      | ok word =>
          have executed :
              (machine.traced.tick before).result = .ok word := result
          rw [stretch_succ_of_ok executed, stretch_succ_of_ok result, ih]
          simp only [traced, result, Stretch.mapState, Stretch.precede,
            Stretch.results, List.map_cons, List.append_assoc,
            List.cons_append, List.nil_append]
      | error cause =>
          have failed :
              (machine.traced.tick before).result = .error cause := result
          rw [stretch_succ_of_error failed, stretch_succ_of_error result]
          simp only [traced, result, Stretch.mapState, Stretch.results,
            List.map_nil, List.nil_append, Option.toList_some,
            List.map_cons]

end Machine

end Chip8
