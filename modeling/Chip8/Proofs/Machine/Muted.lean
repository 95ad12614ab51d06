import Chip8.Proofs.Machine.Stretch

/-!
# Muted machines

The events of a run are told by two voices: the pacer tells of its commands,
and the ticks of a machine may tell of their own affairs.  Muting a machine
takes the second voice away and changes nothing else, so that what the pacer
tells can be heard alone.
-/

namespace Chip8.Machine

variable {σ ε : Type}

/-- The same machine with nothing told by its ticks. -/
def muted (machine : Machine σ ε) : Machine σ ε where
  tick state := { machine.tick state with events := [] }
  describe := machine.describe

/-- A machine whose ticks tell of nothing is muted already. -/
theorem muted_eq_self {machine : Machine σ ε}
    (silent : ∀ state, (machine.tick state).events = []) :
    machine.muted = machine := by
  have ticks : machine.muted.tick = machine.tick := by
    funext state
    change { machine.tick state with events := [] } = machine.tick state
    rw [← silent state]
  exact congrArg (fun tick => Machine.mk tick machine.describe) ticks

theorem stretch_muted (machine : Machine σ ε) (cycles : Nat) (state : σ) :
    machine.muted.stretch cycles state = machine.stretch cycles state := by
  induction cycles generalizing state with
  | zero => rfl
  | succ cycles ih =>
      cases result : (machine.tick state).result with
      | ok word =>
          have executed : (machine.muted.tick state).result = .ok word :=
            result
          rw [stretch_succ_of_ok executed, stretch_succ_of_ok result, ih]
          rfl
      | error cause =>
          have failed : (machine.muted.tick state).result = .error cause :=
            result
          rw [stretch_succ_of_error failed, stretch_succ_of_error result]
          rfl

/-- A muted stretch is told by its words only. -/
theorem stretchEvents_muted (machine : Machine σ ε)
    (observe : Word → List Event) (cycles : Nat) (state : σ) :
    machine.muted.stretchEvents observe cycles state =
      (machine.stretch cycles state).words.flatMap observe := by
  induction cycles generalizing state with
  | zero => rfl
  | succ cycles ih =>
      cases result : (machine.tick state).result with
      | ok word =>
          have executed : (machine.muted.tick state).result = .ok word :=
            result
          rw [stretch_succ_of_ok result, Stretch.words_precede,
            List.flatMap_cons, ← ih]
          simp only [stretchEvents, executed]
          rfl
      | error cause =>
          have failed : (machine.muted.tick state).result = .error cause :=
            result
          rw [stretch_succ_of_error result]
          simp only [stretchEvents, failed]
          rfl

/-- Muting leaves out events and changes neither the others nor their order. -/
theorem stretchEvents_muted_sublist (machine : Machine σ ε)
    (observe : Word → List Event) (cycles : Nat) (state : σ) :
    (machine.muted.stretchEvents observe cycles state).Sublist
      (machine.stretchEvents observe cycles state) := by
  induction cycles generalizing state with
  | zero => exact .slnil
  | succ cycles ih =>
      simp only [stretchEvents, muted]
      cases (machine.tick state).result with
      | ok word =>
          refine List.Sublist.append ?_ (ih _)
          exact List.sublist_append_right _ _
      | error cause => exact List.nil_sublist _

end Chip8.Machine
