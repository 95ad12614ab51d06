import Chip8.Proofs.Machine.Traced

/-!
# Attempts

Ticks can go on after a failure.  A number of attempts is that many ticks, one
after another, whatever each of them comes to; the trace that they leave
depends on their number alone.  Stretches are attempts that end with the first
failure: `attempt_of_stretch`.
-/

namespace Chip8

variable {σ ε : Type}

namespace Machine

/-- Tick a machine a number of times, whatever each tick comes to. -/
def attempt (machine : Machine σ ε) : Nat → σ → Traced σ ε
  | 0, state => .start state
  | count + 1, state =>
      let tick := machine.tick state
      (machine.attempt count tick.state).after [tick.result]

theorem attempt_succ (machine : Machine σ ε) (count : Nat) (state : σ) :
    machine.attempt (count + 1) state =
      (machine.attempt count (machine.tick state).state).after
        [(machine.tick state).result] :=
  rfl

theorem attempt_one (machine : Machine σ ε) (state : σ) :
    machine.attempt 1 state =
      ⟨(machine.tick state).state, [(machine.tick state).result]⟩ :=
  rfl

/-- Attempts go on from the state that earlier ones have left. -/
theorem attempt_add (machine : Machine σ ε) (earlier later : Nat)
    (state : σ) :
    machine.attempt (earlier + later) state =
      let before := machine.attempt earlier state
      (machine.attempt later before.state).after before.results := by
  induction earlier generalizing state with
  | zero => rw [Nat.zero_add]; rfl
  | succ earlier ih =>
      rw [Nat.add_right_comm, attempt_succ, ih]
      rfl

/-- The ticks of a stretch are attempts, the failing one included. -/
theorem attempt_of_stretch (machine : Machine σ ε) (cycles : Nat)
    (state : σ) :
    let stretch := machine.stretch cycles state
    machine.attempt stretch.results.length state =
      ⟨stretch.state, stretch.results⟩ := by
  induction cycles generalizing state with
  | zero => rfl
  | succ cycles ih =>
      cases result : (machine.tick state).result with
      | ok word =>
          rw [stretch_succ_of_ok result]
          simp only [Stretch.results_precede, List.length_cons, attempt_succ,
            ih, result]
          rfl
      | error cause =>
          rw [stretch_succ_of_error result]
          exact (attempt_one machine state).trans (by rw [result]; rfl)

end Machine

end Chip8
