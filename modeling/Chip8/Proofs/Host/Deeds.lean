import Chip8.Proofs.Host.Verdict
import Chip8.Proofs.Machine.Muted

/-!
# What is done with the results of calls

The deeds of some calls are those of each call, one call after another.  So
everything that is done for a call stands together, between the deeds of the
calls before and after it: `exists_deeds_eq`.  An owned result is thus given
back once, after its member was asked for and before the next call, and
nothing else is given back: `count_released`.

How a result can be given back has no bearing on the verdict, and the ticks
of a machine that is muted depend on the verdicts alone:
`verdict_eq_of_bare_eq` and `judging_projects`.
-/

namespace Chip8.Host

/-- The call with whose result something is done. -/
def Deed.call : Deed → Nat
  | .called call => call
  | .asked call => call
  | .released call => call

namespace Call

/-! ## The deeds of one call -/

theorem deeds_of_isOwned {call : Call} (owned : call.isOwned = true)
    (index : Nat) :
    call.deeds index = [.called index, .asked index, .released index] := by
  rw [deeds, if_pos (asks_of_isOwned owned), if_pos owned]
  rfl

theorem call_of_mem_deeds {call : Call} {index : Nat} {deed : Deed}
    (member : deed ∈ call.deeds index) : deed.call = index := by
  simp only [deeds, List.mem_cons, List.mem_append] at member
  rcases member with rfl | asked | released
  · rfl
  · split at asked
    · rw [List.mem_singleton.mp asked]
      rfl
    · cases asked
  · split at released
    · rw [List.mem_singleton.mp released]
      rfl
    · cases released

theorem count_released_deeds (call : Call) (index : Nat) :
    (call.deeds index).count (.released index) =
      if call.isOwned then 1 else 0 := by
  cases owned : call.isOwned with
  | true =>
      rw [deeds_of_isOwned owned]
      simp
  | false =>
      rw [deeds, owned]
      cases call.asks <;> simp

end Call

/-! ## The deeds of many calls -/

variable (script : Nat → Call)

theorem call_of_mem_deedsOf {script : Nat → Call} {indices : List Nat}
    {deed : Deed} (member : deed ∈ deedsOf script indices) :
    deed.call ∈ indices := by
  rcases List.mem_flatMap.mp member with ⟨index, among, done⟩
  rw [Call.call_of_mem_deeds done]
  exact among

/-- The deeds for one call stand between those for the others. -/
theorem exists_deeds_eq {calls index : Nat} (made : index < calls) :
    ∃ earlier later,
      deedsOf script (List.range calls) =
        earlier ++ (script index).deeds index ++ later ∧
      (∀ deed ∈ earlier, deed.call < index) ∧
      ∀ deed ∈ later, index < deed.call := by
  obtain ⟨rest, rfl⟩ := Nat.exists_eq_add_of_lt made
  refine
    ⟨deedsOf script (List.range index),
      deedsOf script (List.range' (index + 1) rest), ?_, ?_, ?_⟩
  · have split :
        List.range (index + rest + 1) =
          List.range index ++ [index] ++ List.range' (index + 1) rest := by
      rw [List.append_assoc, List.singleton_append, ← List.range'_succ,
        List.range_eq_range', List.range_eq_range', Nat.add_assoc,
        ← List.range'_append_1, Nat.zero_add]
    rw [split]
    simp only [deedsOf, List.flatMap_append, List.flatMap_singleton]
  · intro deed member
    exact List.mem_range.mp (call_of_mem_deedsOf member)
  · intro deed member
    exact (List.mem_range'_1.mp (call_of_mem_deedsOf member)).1

/-- An owned result is given back once, and nothing else is. -/
theorem count_released (calls index : Nat) :
    (deedsOf script (List.range calls)).count (.released index) =
      if index < calls ∧ (script index).isOwned then 1 else 0 := by
  by_cases made : index < calls
  · rcases exists_deeds_eq script made with
      ⟨earlier, later, deeds, before, after⟩
    have notEarlier : .released index ∉ earlier := by
      intro member
      exact Nat.lt_irrefl index (before _ member)
    have notLater : .released index ∉ later := by
      intro member
      exact Nat.lt_irrefl index (after _ member)
    rw [deeds, List.count_append, List.count_append,
      List.count_eq_zero.mpr notEarlier, List.count_eq_zero.mpr notLater,
      Call.count_released_deeds]
    simp only [made, true_and, Nat.zero_add, Nat.add_zero]
  · have never : .released index ∉ deedsOf script (List.range calls) := by
      intro member
      exact made (List.mem_range.mp (call_of_mem_deedsOf member))
    rw [List.count_eq_zero.mpr never, if_neg]
    rintro ⟨lt, _⟩
    exact made lt

/-! ## Results without ways to give them back -/

/-- The same value with nothing for giving it back. -/
def Value.bare : Value → Value
  | .object opCode _ => .object opCode .absent
  | .guarded thrown _ => .guarded thrown .absent
  | other => other

/-- The same call with nothing for giving its result back. -/
def Call.bare : Call → Call
  | .returned value => .returned value.bare
  | .threw value => .threw value

theorem Call.verdict_bare (call : Call) :
    call.bare.verdict = call.verdict := by
  cases call with
  | threw value => rfl
  | returned value =>
      cases value with
      | object | guarded => rfl
      | undefined | null | bool | number | text => rfl

/-- How a result can be given back has no bearing on the verdict. -/
theorem Call.verdict_eq_of_bare_eq {left right : Call}
    (same : left.bare = right.bare) : left.verdict = right.verdict := by
  rw [← left.verdict_bare, same, right.verdict_bare]

namespace Callback

/-! ## Machines of verdicts -/

/-- The machine that counts calls and has nothing but their verdicts. -/
def judging (verdicts : Nat → Except TickError Word) :
    Machine Nat TickError where
  tick calls := ⟨verdicts calls, calls + 1, []⟩
  describe := TickError.message

/-- Once muted, a tick function is seen by the verdicts on its calls. -/
theorem judging_projects :
    Machine.Projects Callback.calls (machine script).muted
      (judging fun index => (script index).verdict) where
  tick callback := by
    simp only [Machine.muted, tick_machine]
    rfl
  describe := rfl

end Callback

end Chip8.Host
