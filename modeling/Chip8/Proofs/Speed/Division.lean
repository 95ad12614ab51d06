import Chip8.Proofs.Speed.Expansion
import Chip8.Proofs.Speed.Value
import Mathlib.Data.Nat.Log

/-!
# Divisions of a denominator

The factors of ten are taken out of a denominator in two loops: for one factor
after the other, the remainder is tested and the number divided until there is
one.  `Division` is what the loops hold between two tests.

`Proper.step` says what a test preserves: it keeps the rest from being zero,
leaves less to be done, and does not change what the loops come to in the end.
So they end, with what `withoutFactor` leaves.  A rest of zero can be divided
for ever, and `Written` says what this means for a text: over zero nothing is
ever written, and the parts of a speed are written as its text.
-/

namespace Chip8.Speed

/-- The factors that are still to be taken out, and what is left to divide. -/
structure Division where
  factors : List Nat
  rest : Nat
deriving DecidableEq, Repr

namespace Division

/-! ## Tests -/

/-- Test one remainder: divide if it is zero, else go on to the next factor. -/
def next? : Division → Option Division
  | ⟨[], _⟩ => none
  | ⟨factor :: factors, rest⟩ =>
      if rest % factor = 0 then
        some ⟨factor :: factors, rest / factor⟩
      else
        some ⟨factors, rest⟩

/-- What the loops hold after so many tests, if they get so far. -/
def after? : Division → Nat → Option Division
  | division, 0 => some division
  | division, count + 1 =>
      division.next?.bind fun next => next.after? count

/-- The loops end after so many tests, and this is left. -/
def Ends (division : Division) (count last : Nat) : Prop :=
  division.after? count = some ⟨[], last⟩

/-- The loops go on, however many tests have been made. -/
def Endless (division : Division) : Prop :=
  ∀ count, ∃ later, division.after? count = some later

instance (division : Division) (count last : Nat) :
    Decidable (division.Ends count last) :=
  inferInstanceAs (Decidable (_ = _))

/-- Only factors above one are taken out, and not of zero. -/
structure Proper (division : Division) : Prop where
  large : ∀ factor ∈ division.factors, 1 < factor
  rest_pos : 0 < division.rest

/-- How often the rest can be halved, and a test more for each factor. -/
def effort (division : Division) : Nat :=
  Nat.log 2 division.rest + division.factors.length

/-- The rest without all of the factors. -/
def outcome (division : Division) : Nat :=
  division.factors.foldl (fun rest factor => withoutFactor factor rest)
    division.rest

section

variable {division following : Division} {count last : Nat}

theorem after?_succ (tested : division.next? = some following) :
    division.after? (count + 1) = following.after? count := by
  rw [after?, tested, Option.bind_some]

theorem log_div_lt {factor rest : Nat} (large : 1 < factor)
    (rest_pos : 0 < rest) (divides : factor ∣ rest) :
    Nat.log 2 (rest / factor) < Nat.log 2 rest := by
  have quotient_pos : rest / factor ≠ 0 :=
    (Nat.div_pos (Nat.le_of_dvd rest_pos divides) (by omega)).ne'
  have halved : rest / factor * 2 ≤ rest :=
    (Nat.mul_le_mul_left _ large).trans (Nat.div_mul_le_self rest factor)
  calc
    Nat.log 2 (rest / factor) < Nat.log 2 (rest / factor * 2) := by
      rw [Nat.log_mul_base (by decide) quotient_pos]
      exact Nat.lt_succ_self _
    _ ≤ Nat.log 2 rest := Nat.log_mono_right halved

/--
A test keeps loops proper, leaves less to do, and the same outcome.  A division
keeps all factors and at least halves the rest; a remainder keeps the rest, and
one factor is done with.
-/
theorem Proper.step (proper : division.Proper)
    (tested : division.next? = some following) :
    following.Proper ∧ following.effort < division.effort ∧
      following.outcome = division.outcome := by
  rcases proper with ⟨large, rest_pos⟩
  rcases division with ⟨_ | ⟨factor, factors⟩, rest⟩
  · cases tested
  rw [next?] at tested
  have factor_large := large factor List.mem_cons_self
  split at tested
  next whole =>
    cases tested
    have divides := Nat.dvd_of_mod_eq_zero whole
    have quotient_pos : 0 < rest / factor :=
      Nat.div_pos (Nat.le_of_dvd rest_pos divides) (by omega)
    have less := log_div_lt factor_large rest_pos divides
    refine ⟨⟨large, quotient_pos⟩, Nat.add_lt_add_right less _, ?_⟩
    rw [outcome, outcome, List.foldl_cons, List.foldl_cons,
      withoutFactor.eq_def factor rest,
      dif_pos ⟨factor_large, rest_pos, whole⟩]
  next remains =>
    cases tested
    have others : ∀ other ∈ factors, 1 < other := fun other member =>
      large other (List.mem_cons_of_mem _ member)
    refine ⟨⟨others, rest_pos⟩, Nat.lt_succ_self _, ?_⟩
    rw [outcome, outcome, List.foldl_cons, withoutFactor.eq_def factor rest,
      dif_neg fun divides => remains divides.2.2]

/-! ## Runs -/

/--
Proper loops end, with their outcome: neither the factors nor the rest get less
each time, but their effort does.
-/
theorem Proper.ends (proper : division.Proper) :
    ∃ count ≤ division.effort, division.Ends count division.outcome := by
  induction most : division.effort using Nat.strongRecOn
    generalizing division with
  | ind most ih =>
      cases tested : division.next? with
      | none =>
          rcases division with ⟨_ | ⟨factor, factors⟩, rest⟩
          · exact ⟨0, Nat.zero_le _, rfl⟩
          · rw [next?] at tested
            split at tested <;> cases tested
      | some following =>
          rcases proper.step tested with ⟨properAfter, less, same⟩
          rw [most] at less
          rcases ih following.effort less properAfter rfl with
            ⟨count, le, ends⟩
          refine ⟨count + 1, Nat.succ_le_of_lt (le.trans_lt less), ?_⟩
          rw [Ends, after?_succ tested, ← same]
          exact ends

/-- No other end is possible. -/
theorem Proper.eq_outcome (proper : division.Proper)
    (ends : division.Ends count last) : last = division.outcome := by
  induction count generalizing division with
  | zero =>
      cases ends
      rfl
  | succ count ih =>
      cases tested : division.next? with
      | none =>
          rw [Ends, after?, tested] at ends
          cases ends
      | some following =>
          rcases proper.step tested with ⟨properAfter, -, same⟩
          rw [Ends, after?_succ tested] at ends
          rw [← same]
          exact ih properAfter ends

/-- Zero is divided by the first factor again and again. -/
theorem after?_zero_rest (factor : Nat) (factors : List Nat) (count : Nat) :
    after? ⟨factor :: factors, 0⟩ count = some ⟨factor :: factors, 0⟩ := by
  induction count with
  | zero => rfl
  | succ count ih =>
      have again :
          next? ⟨factor :: factors, 0⟩ = some ⟨factor :: factors, 0⟩ := by
        rw [next?, if_pos (Nat.zero_mod factor), Nat.zero_div]
      rw [after?_succ again]
      exact ih

end

/-! ## The factors of ten -/

/-- Take two and five out of a denominator. -/
def ofTen (denominator : Nat) : Division :=
  ⟨[2, 5], denominator⟩

theorem proper_ofTen {denominator : Nat} (positive : 0 < denominator) :
    (ofTen denominator).Proper where
  large := by
    have large : ∀ factor ∈ [2, 5], 1 < factor := by decide
    exact large
  rest_pos := positive

/-- Each test halves the denominator at least, or is the last of its factor. -/
theorem ends_ofTen {denominator : Nat} (positive : 0 < denominator) :
    ∃ count ≤ Nat.log 2 denominator + 2,
      (ofTen denominator).Ends count
        (withoutFactor 5 (withoutFactor 2 denominator)) :=
  (proper_ofTen positive).ends

/-- Five halves, three fifths, and a remainder for each factor. -/
example : (ofTen 4000).Ends 10 1 := by
  decide

theorem endless_ofTen_zero : (ofTen 0).Endless :=
  fun count => ⟨_, after?_zero_rest 2 [5] count⟩

end Division

open Division

/-! ## What the loops find -/

/-- The loops end, and their answer is whether nothing but one is left. -/
def Finds (denominator : Nat) (answer : Bool) : Prop :=
  ∃ count last,
    (ofTen denominator).Ends count last ∧ answer = decide (last = 1)

theorem finds_iff {denominator : Nat} {answer : Bool} :
    Finds denominator answer ↔
      0 < denominator ∧ answer = endsInDecimal denominator := by
  constructor
  · rintro ⟨count, last, ends, rfl⟩
    rcases Nat.eq_zero_or_pos denominator with rfl | positive
    · rw [Ends, ofTen, after?_zero_rest] at ends
      cases ends
    · rw [(proper_ofTen positive).eq_outcome ends]
      exact ⟨positive, rfl⟩
  · rintro ⟨positive, rfl⟩
    rcases ends_ofTen positive with ⟨count, -, ends⟩
    exact ⟨count, _, ends, rfl⟩

/-! ## What is written by way of them -/

/--
The text of two parts.  Unless the lower one is one, the loops have to end
before it is known whether a decimal or a fraction is written.
-/
inductive Written (numerator denominator : Nat) : String → Prop where
  | whole (one : denominator = 1) :
      Written numerator denominator (Numeral.decimal numerator ++ "x")
  | decimal (other : denominator ≠ 1) (found : Finds denominator true) :
      Written numerator denominator
        ((Binary64.ofRatio numerator denominator).text ++ "x")
  | fraction (other : denominator ≠ 1) (found : Finds denominator false) :
      Written numerator denominator
        (Numeral.decimal numerator ++ "/" ++
          Numeral.decimal denominator ++ "x")

/-- The parts of a speed are written as its text, and in no other way. -/
theorem written_iff (speed : Speed) (shown : String) :
    Written speed.numerator speed.denominator shown ↔
      shown = speed.text := by
  constructor
  · intro written
    cases written with
    | whole one => rw [text, if_pos one]
    | decimal other found =>
        rw [text, if_neg other, ← (finds_iff.mp found).2, if_pos rfl,
          toBinary64]
    | fraction other found =>
        rw [text, if_neg other, ← (finds_iff.mp found).2,
          if_neg Bool.false_ne_true]
  · rintro rfl
    unfold text
    split
    next one => exact .whole one
    next other =>
      have found : Finds speed.denominator (endsInDecimal speed.denominator) :=
        finds_iff.mpr ⟨speed.denominator_pos, rfl⟩
      split
      next ends =>
        rw [ends] at found
        exact .decimal other found
      next endless =>
        rw [Bool.not_eq_true] at endless
        rw [endless] at found
        exact .fraction other found

/-- Over zero nothing is ever written. -/
theorem not_written_zero {numerator : Nat} {shown : String} :
    ¬ Written numerator 0 shown := by
  intro written
  cases written with
  | whole one => cases one
  | decimal _ found => exact Nat.lt_irrefl 0 (finds_iff.mp found).1
  | fraction _ found => exact Nat.lt_irrefl 0 (finds_iff.mp found).1

/--
Two loops decide which decimals end.  For every denominator but zero they end,
after two tests and one for each time that it can be halved, at most.  The
answer is yes exactly if the denominator divides a power of ten; if it has no
prime factors but two and five; and if all fractions over it have a decimal
that ends, where one fraction in lowest terms decides for all.  Zero would be
divided for ever, and nothing would be written.  But a ratio over zero is
refused, and every speed is made of a ratio: its parts are written as its text,
and in no other way.
-/
theorem division_decides_decimals :
    (∀ denominator, 0 < denominator →
      (∃ count ≤ Nat.log 2 denominator + 2, ∃ last,
        (ofTen denominator).Ends count last ∧
          endsInDecimal denominator = decide (last = 1)) ∧
      (endsInDecimal denominator = true ↔
        ∃ places, denominator ∣ 10 ^ places) ∧
      (endsInDecimal denominator = true ↔
        ∀ prime : Nat, prime.Prime → prime ∣ denominator →
          prime = 2 ∨ prime = 5) ∧
      (endsInDecimal denominator = true ↔
        ∀ numerator : Nat, HasDecimal (numerator / denominator)) ∧
      ∀ numerator : Nat, Nat.Coprime numerator denominator →
        (endsInDecimal denominator = true ↔
          HasDecimal (numerator / denominator))) ∧
      (ofTen 0).Endless ∧
      (∀ numerator shown, ¬ Written numerator 0 shown) ∧
      (∀ numerator, ofRatio numerator 0 = .error .zeroDenominator) ∧
      ∀ speed : Speed,
        (∃ numerator denominator,
          ofRatio numerator denominator = .ok speed) ∧
        0 < speed.denominator ∧
        ∀ shown,
          Written speed.numerator speed.denominator shown ↔
            shown = speed.text := by
  refine ⟨?_, endless_ofTen_zero, fun _ _ => not_written_zero, fun _ => rfl,
    fun speed => ⟨⟨_, _, ofRatio_parts speed⟩, speed.denominator_pos,
      written_iff speed⟩⟩
  intro denominator positive
  refine ⟨?_, endsInDecimal_iff_exists_dvd positive,
    endsInDecimal_iff positive, ?_, fun numerator coprime =>
      endsInDecimal_iff_hasDecimal positive coprime⟩
  · rcases ends_ofTen positive with ⟨count, le, ends⟩
    exact ⟨count, le, _, ends, rfl⟩
  · constructor
    · exact hasDecimal_of_endsInDecimal positive
    · intro decimals
      exact endsInDecimal_of_hasDecimal positive (Nat.coprime_one_left _)
        (decimals 1)

end Chip8.Speed
