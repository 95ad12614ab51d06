import Chip8.Proofs.Binary64.Fewest
import Chip8.Proofs.Speed.RoundTrip

/-!
# What the texts of speeds are worth

A whole number, a decimal or a fraction has one exact value, and `Shows` says
which one a speed shows in its text.  Whole numbers and fractions are shown as
they are.  A decimal is shown by way of its floating-point number, so that its
text has seventeen digits at most: it is the shortest decimal of this number,
which is the speed itself if the speed has no more than fifteen digits, and may
be another decimal close to it if there are more of them.

Two decimals with the same floating-point number have the same text; but for
these, different speeds have different texts.
-/

namespace Chip8.Speed

open Binary64

/-! ## The value of a text -/

/-- The exact value of a whole number, a decimal or a fraction. -/
inductive Worth (text : List Char) : ℚ → Prop where
  | decimal {coefficient places : Nat}
      (digits : Mantissa text coefficient places) :
      Worth text (coefficient / 10 ^ places)
  | fraction {left right : List Char} {numerator denominator : Nat}
      (characters : text = left ++ '/' :: right)
      (upper : Numeral.Spells left numerator)
      (lower : Numeral.Spells right denominator) :
      Worth text (numerator / denominator)

theorem slash_not_mem_of_mantissa {left right : List Char}
    {coefficient places : Nat} :
    ¬ Mantissa (left ++ '/' :: right) coefficient places := by
  intro digits
  apply digits.not_mem (by decide : '/'.isDigit = false) (by decide)
  exact List.mem_append_right left List.mem_cons_self

/-- A text has one value at most. -/
theorem Worth.unique {text : List Char} {value other : ℚ}
    (left : Worth text value) (right : Worth text other) : value = other := by
  cases left with
  | decimal digits =>
      cases right with
      | decimal otherDigits =>
          rcases digits.unique otherDigits with ⟨rfl, rfl⟩
          rfl
      | fraction characters =>
          rw [characters] at digits
          exact absurd digits slash_not_mem_of_mantissa
  | fraction characters upper lower =>
      cases right with
      | decimal digits =>
          rw [characters] at digits
          exact absurd digits slash_not_mem_of_mantissa
      | fraction otherCharacters otherUpper otherLower =>
          have first := upper.not_mem (by decide : '/'.isDigit = false)
          have otherFirst :=
            otherUpper.not_mem (by decide : '/'.isDigit = false)
          rw [characters] at otherCharacters
          have parts := congrArg splitSlash? otherCharacters
          rw [splitSlash_append _ first, splitSlash_append _ otherFirst,
            Option.some.injEq, Prod.mk.injEq] at parts
          rcases parts with ⟨rfl, rfl⟩
          rw [← upper.value_eq, ← lower.value_eq, otherUpper.value_eq,
            otherLower.value_eq]

/-- A decimal is written with its own value. -/
theorem worth_positional (decimal : Decimal) :
    Worth decimal.positional.toList decimal.value := by
  rcases mantissa_positional decimal with
    ⟨coefficient, places, digits, value⟩
  rw [← value, zpow_neg, zpow_natCast, ← div_eq_mul_inv]
  exact .decimal digits

/-! ## The value that a speed shows -/

section

variable {speed : Speed} {value other : ℚ}

/-- What the text of a speed says without the mark behind it. -/
def Shows (speed : Speed) (value : ℚ) : Prop :=
  ∃ number : String, speed.text = number ++ "x" ∧ Worth number.toList value

theorem Shows.unique (left : speed.Shows value) (right : speed.Shows other) :
    value = other := by
  rcases left with ⟨number, text, worth⟩
  rcases right with ⟨otherNumber, otherText, otherWorth⟩
  rw [text] at otherText
  have same : number.toList = otherNumber.toList := by
    have characters := congrArg String.toList otherText
    rw [String.toList_append, String.toList_append] at characters
    exact List.append_cancel_right characters
  rw [same] at worth
  exact worth.unique otherWorth

theorem shows_congr {left right : Speed} (same : left.text = right.text) :
    left.Shows value ↔ right.Shows value := by
  rw [Shows, Shows, same]

/-- A decimal that ends, other than a whole number. -/
def IsDecimal (speed : Speed) : Prop :=
  speed.denominator ≠ 1 ∧
    ∀ prime : Nat, prime.Prime → prime ∣ speed.denominator →
      prime = 2 ∨ prime = 5

theorem isDecimal_iff :
    speed.IsDecimal ↔
      speed.denominator ≠ 1 ∧ endsInDecimal speed.denominator = true := by
  rw [IsDecimal, endsInDecimal_iff speed.denominator_pos]

/-! ## Whole numbers and fractions -/

theorem text_cases (noDecimal : ¬ speed.IsDecimal) :
    speed.denominator = 1 ∧
        speed.text = Numeral.decimal speed.numerator ++ "x" ∨
      speed.text =
        Numeral.decimal speed.numerator ++ "/" ++
          Numeral.decimal speed.denominator ++ "x" := by
  rw [isDecimal_iff, not_and, Bool.not_eq_true] at noDecimal
  by_cases whole : speed.denominator = 1
  · exact .inl ⟨whole, if_pos whole⟩
  · rw [text, if_neg whole, noDecimal whole, if_neg Bool.false_ne_true]
    exact .inr rfl

/-- Whole numbers and fractions are shown as they are. -/
theorem shows_value (noDecimal : ¬ speed.IsDecimal) :
    speed.Shows speed.value := by
  have upper := Numeral.spells_decimal speed.numerator
  have lower := Numeral.spells_decimal speed.denominator
  rcases text_cases noDecimal with ⟨whole, text⟩ | text
  · have value : speed.value = (speed.numerator : ℚ) / 10 ^ 0 := by
      rw [Speed.value, whole, Nat.cast_one, pow_zero]
    rw [value]
    exact ⟨_, text, .decimal (.whole upper)⟩
  · refine ⟨_, text, .fraction ?_ upper lower⟩
    rw [String.toList_append, String.toList_append, List.append_assoc]
    rfl

theorem point_not_mem_text (noDecimal : ¬ speed.IsDecimal) :
    '.' ∉ speed.text.toList := by
  have noDigit : '.'.isDigit = false := rfl
  have upper := (Numeral.spells_decimal speed.numerator).not_mem noDigit
  have lower := (Numeral.spells_decimal speed.denominator).not_mem noDigit
  rcases text_cases noDecimal with ⟨-, text⟩ | text
  · rw [text]
    simp only [String.toList_append, List.mem_append, not_or]
    exact ⟨upper, by decide⟩
  · rw [text]
    simp only [String.toList_append, List.mem_append, not_or]
    exact ⟨⟨⟨upper, by decide⟩, lower⟩, by decide⟩

/-! ## Decimals -/

/-- The number of a speed is positive and finite, and of a full binade. -/
theorem ofCode_toBinary64 (speed : Speed) :
    speed.toBinary64 = ofCode false speed.toBinary64.code ∧
      fractionCount ≤ speed.toBinary64.code ∧
        speed.toBinary64.code < infinityCode := by
  rcases exists_code speed with ⟨code, number, -, normal, finite⟩
  have same : speed.toBinary64.code = code := by
    rw [number, code_ofCode _ _ (lt_signPlace finite)]
  rw [same]
  exact ⟨number, normal, finite⟩

section

variable (isDecimal : speed.IsDecimal)
include isDecimal

theorem text_of_isDecimal :
    speed.text =
      (Interval.ofCode speed.toBinary64.code).shortest.positional ++
        "x" := by
  rcases ofCode_toBinary64 speed with ⟨number, normal, finite⟩
  rw [isDecimal_iff] at isDecimal
  rw [← text_ofCode (Nat.zero_lt_of_lt normal) finite, ← number, text,
    if_neg isDecimal.1, if_pos isDecimal.2]

/-- A decimal is shown as the shortest one of its number. -/
theorem shows_shortest :
    ∃ value,
      speed.Shows value ∧
        ∃ count ≤ 17, Shortest speed.toBinary64.code value count := by
  rcases ofCode_toBinary64 speed with ⟨-, normal, finite⟩
  refine ⟨_, ⟨_, text_of_isDecimal isDecimal, worth_positional _⟩, ?_⟩
  exact shortest_isShortest (Nat.zero_lt_of_lt normal) finite

theorem point_mem_text : '.' ∈ speed.text.toList := by
  rcases exists_code speed with ⟨code, number, holds, normal, finite⟩
  have places := shortest_exponent_neg isDecimal.1 holds normal
  rcases positional_point places with ⟨whole, fraction, characters, -⟩
  rw [text_of_isDecimal isDecimal, number,
    code_ofCode _ _ (lt_signPlace finite), String.toList_append, characters]
  simp

end

theorem point_mem_text_iff :
    '.' ∈ speed.text.toList ↔ speed.IsDecimal := by
  constructor
  · intro member
    by_contra noDecimal
    exact point_not_mem_text noDecimal member
  · exact point_mem_text

end

/-! ## Speeds with the same text -/

/-- Only decimals with the same number have the same text. -/
theorem text_eq_iff {left right : Speed} :
    left.text = right.text ↔
      left = right ∨
        left.IsDecimal ∧ right.IsDecimal ∧
          left.toBinary64 = right.toBinary64 := by
  constructor
  · intro same
    have forms : left.IsDecimal ↔ right.IsDecimal := by
      rw [← point_mem_text_iff, ← point_mem_text_iff, same]
    by_cases isDecimal : left.IsDecimal
    · refine .inr ⟨isDecimal, forms.mp isDecimal, ?_⟩
      rcases shows_shortest isDecimal with ⟨value, shown, _, -, shortest⟩
      rcases shows_shortest (forms.mp isDecimal) with
        ⟨other, otherShown, _, -, otherShortest⟩
      rw [((shows_congr same).mp shown).unique otherShown] at shortest
      have codes := nearest_unique shortest.nearest otherShortest.nearest
      rw [(ofCode_toBinary64 left).1, codes, ← (ofCode_toBinary64 right).1]
    · have shown := (shows_congr same).mp (shows_value isDecimal)
      have otherShown := shows_value (forms.not.mp isDecimal)
      exact .inl (value_inj.mp (shown.unique otherShown))
  · rintro (rfl | ⟨isDecimal, otherDecimal, same⟩)
    · rfl
    · rw [text_of_isDecimal isDecimal, text_of_isDecimal otherDecimal, same]

/-! ## What is shown and what is meant -/

/-- The one value that a speed shows, compared with its own. -/
structure Shown (speed : Speed) (value : ℚ) : Prop where
  shows_iff : ∀ other, speed.Shows other ↔ other = value
  nearest : Nearest speed.value speed.toBinary64.code
  shortest :
    speed.IsDecimal →
      ∃ count ≤ 17, Shortest speed.toBinary64.code value count
  exact_iff :
    value = speed.value ↔
      (speed.IsDecimal →
        ∃ count, Shortest speed.toBinary64.code speed.value count)
  exact_of_digits : HasDigits speed.value 15 → value = speed.value
  close : |value - speed.value| ≤ speed.value / 2 ^ 51

theorem value_nonneg (speed : Speed) : 0 ≤ speed.value :=
  div_nonneg (Nat.cast_nonneg _) (Nat.cast_nonneg _)

theorem shows_iff_of_shows {speed : Speed} {value : ℚ}
    (shown : speed.Shows value) (other : ℚ) :
    speed.Shows other ↔ other = value := by
  constructor
  · intro otherShown
    exact otherShown.unique shown
  · rintro rfl
    exact shown

theorem exists_shown (speed : Speed) : ∃ value, Shown speed value := by
  have nearest := nearest_toBinary64 speed
  by_cases isDecimal : speed.IsDecimal
  · rcases ofCode_toBinary64 speed with ⟨-, normal, finite⟩
    rcases shows_shortest isDecimal with
      ⟨value, shown, count, le, shortest⟩
    refine ⟨value, ?_⟩
    exact {
      shows_iff := shows_iff_of_shows shown
      nearest := nearest
      shortest := fun _ => ⟨count, le, shortest⟩
      exact_iff := by
        constructor
        · intro same _
          rw [← same]
          exact ⟨count, shortest⟩
        · intro own
          rcases own isDecimal with ⟨_, own⟩
          exact shortest.unique own
      exact_of_digits := fun digits =>
        shortest.eq_of_fifteen_digits normal finite digits nearest
      close :=
        abs_sub_le_div_of_nearest normal finite speed.value_nonneg nearest
          shortest.digits.nonneg shortest.nearest }
  · refine ⟨speed.value, ?_⟩
    exact {
      shows_iff := shows_iff_of_shows (shows_value isDecimal)
      nearest := nearest
      shortest := fun decimal => absurd decimal isDecimal
      exact_iff := iff_of_true rfl fun decimal => absurd decimal isDecimal
      exact_of_digits := fun _ => rfl
      close := by
        rw [sub_self, abs_zero]
        exact div_nonneg speed.value_nonneg (by positivity) }

/--
The text of a speed has one exact value.  That of a whole number or a fraction
is the speed itself.  That of a decimal is the shortest decimal that is rounded
to the same floating-point number as the speed: the speed itself if it has no
more than fifteen digits, and otherwise a decimal close to it.  Different
speeds have the same text exactly if they are decimals that are rounded to the
same floating-point number.
-/
theorem text_shows_shortest_decimal :
    (∀ speed : Speed, ∃ value, Shown speed value) ∧
      ∀ left right : Speed,
        left.text = right.text ↔
          left = right ∨
            left.IsDecimal ∧ right.IsDecimal ∧
              left.toBinary64 = right.toBinary64 :=
  ⟨exists_shown, fun _ _ => text_eq_iff⟩

/-! ## A decimal that is too long -/

/-- A fraction of a power of two; its decimal has twenty-seven digits. -/
def longDecimal : Speed :=
  ⟨122699441, 134217728, by decide, by decide, by decide, by decide,
    by decide⟩

/-- A fraction of a power of five; its decimal has twelve digits. -/
def shortDecimal : Speed :=
  ⟨223188983, 244140625, by decide, by decide, by decide, by decide,
    by decide⟩

/-- Two speeds are shown as the same decimal, which only one of them is. -/
theorem text_of_long_decimal :
    longDecimal ≠ shortDecimal ∧
      longDecimal.text = "0.914182074368x" ∧
      shortDecimal.text = "0.914182074368x" ∧
      shortDecimal.Shows shortDecimal.value ∧
      ¬ longDecimal.Shows longDecimal.value := by
  have long : longDecimal.text = "0.914182074368x" := by decide +kernel
  have short : shortDecimal.text = "0.914182074368x" := by decide +kernel
  have digits : Mantissa "0.914182074368".toList 914182074368 12 :=
    @Mantissa.point "0".toList "914182074368".toList 914182074368
      ⟨by decide, List.all_eq_true.mp rfl, by decide⟩
  have shown : shortDecimal.Shows shortDecimal.value := by
    refine ⟨"0.914182074368", short, ?_⟩
    have value : shortDecimal.value = (914182074368 : Nat) / 10 ^ 12 := by
      norm_num [Speed.value, shortDecimal]
    rw [value]
    exact .decimal digits
  have different : longDecimal ≠ shortDecimal := by decide
  refine ⟨different, long, short, shown, ?_⟩
  intro longShown
  have otherShown := (shows_congr (long.trans short.symm)).mp longShown
  exact different (value_inj.mp (otherShown.unique shown))

end Chip8.Speed
