import Chip8.Proofs.Binary64.Decimal
import Mathlib.Data.List.TakeWhile

/-!
# The grammar of numbers

A number is written as digits with an optional point among or beside them, an
optional sign in front and an optional exponent behind, or as one of three
words.  `Denotes` says which number a text stands for, by its grammar and by
rounding to the nearest number, and `ofText?_eq_some_iff` that exactly these
texts are read.

Reading takes digits as long as there are any, so each part of the grammar is
told apart from what may follow it by the first character of the rest.
-/

namespace Chip8.Binary64

/-! ## The grammar -/

/-- An optional sign, and whether it is a minus. -/
inductive Signed : List Char → Bool → Prop where
  | none : Signed [] false
  | plus : Signed ['+'] false
  | minus : Signed ['-'] true

/--
Digits with an optional point: the number that they spell without the point,
and how many of them stand behind it.
-/
inductive Mantissa : List Char → Nat → Nat → Prop where
  | whole {digits : List Char} {coefficient : Nat}
      (spelled : Numeral.Spells digits coefficient) :
      Mantissa digits coefficient 0
  | point {before behind : List Char} {coefficient : Nat}
      (spelled : Numeral.Spells (before ++ behind) coefficient) :
      Mantissa (before ++ '.' :: behind) coefficient behind.length

/-- An optional exponent. -/
inductive Power : List Char → Int → Prop where
  | none : Power [] 0
  | written {mark : Char} {sign digits : List Char} {negative : Bool}
      {exponent : Nat} (isMark : mark = 'e' ∨ mark = 'E')
      (signed : Signed sign negative)
      (spelled : Numeral.Spells digits exponent) :
      Power (mark :: (sign ++ digits))
        (if negative then -(exponent : Int) else exponent)

/-- Whether a text is a word, in either case of letters. -/
def IsWord (text : List Char) (word : String) : Prop :=
  String.ofList (text.map Char.toLower) = word

/-- What a text without a sign stands for. -/
inductive Magnitude : List Char → Binary64 → Prop where
  | numeral {mantissa power : List Char} {coefficient places code : Nat}
      {exponent : Int} (digits : Mantissa mantissa coefficient places)
      (scaled : Power power exponent)
      (nearest :
        Nearest (coefficient * 10 ^ (exponent - places)) code) :
      Magnitude (mantissa ++ power) (ofCode false code)
  | infinite {word : List Char}
      (isWord : IsWord word "inf" ∨ IsWord word "infinity") :
      Magnitude word (infinity false)
  | noNumber {word : List Char} (isWord : IsWord word "nan") :
      Magnitude word nan

/-- The number that a text stands for. -/
inductive Denotes : List Char → Binary64 → Prop where
  | signed {sign magnitude : List Char} {negative : Bool}
      {number : Binary64} (isSign : Signed sign negative)
      (unsigned : Magnitude magnitude number) :
      Denotes (sign ++ magnitude) (withSign negative number)

/-! ## Digits -/

theorem digits?_eq_some_iff {text : List Char} {value : Nat} :
    digits? text = some value ↔ Numeral.Spells text value := by
  unfold digits?
  constructor
  · intro read
    split at read
    next => cases read
    next digits =>
      simp only [Bool.or_eq_true, not_or, List.isEmpty_iff,
        Bool.not_eq_true', Bool.not_eq_false] at digits
      cases read
      exact ⟨digits.1, List.all_eq_true.mp digits.2, rfl⟩
  · rintro ⟨nonempty, digits, rfl⟩
    rw [List.isEmpty_eq_false_iff.mpr nonempty,
      List.all_eq_true.mpr digits]
    rfl

/-- Digits are taken up to a text that begins with none. -/
theorem span_digits {digits rest : List Char}
    (all : ∀ character ∈ digits, character.isDigit = true)
    (stops : ∀ first ∈ rest.head?, first.isDigit = false) :
    (digits ++ rest).takeWhile Char.isDigit = digits ∧
      (digits ++ rest).dropWhile Char.isDigit = rest := by
  rw [List.takeWhile_append_of_pos all, List.dropWhile_append_of_pos all]
  cases rest with
  | nil => exact ⟨List.append_nil digits, rfl⟩
  | cons first others =>
      have noDigit := stops first rfl
      rw [List.takeWhile_cons, List.dropWhile_cons, noDigit]
      exact ⟨List.append_nil digits, rfl⟩

/-! ## Signs -/

theorem signed_takeSign (text : List Char) :
    ∃ sign,
      Signed sign (takeSign text).1 ∧ text = sign ++ (takeSign text).2 := by
  unfold takeSign
  split
  · exact ⟨_, .minus, rfl⟩
  · exact ⟨_, .plus, rfl⟩
  · exact ⟨_, .none, rfl⟩

/-- A sign is taken off a text that does not begin with another one. -/
theorem takeSign_of_signed {sign rest : List Char} {negative : Bool}
    (signed : Signed sign negative)
    (unsigned : ∀ first ∈ rest.head?, first ≠ '+' ∧ first ≠ '-') :
    takeSign (sign ++ rest) = (negative, rest) := by
  cases signed with
  | plus => rfl
  | minus => rfl
  | none =>
      rw [List.nil_append]
      unfold takeSign
      split
      · exact absurd rfl (unsigned '-' rfl).2
      · exact absurd rfl (unsigned '+' rfl).1
      · rfl

/-- Digits begin with no sign. -/
theorem unsigned_of_isDigit {first : Char} (digit : first.isDigit = true) :
    first ≠ '+' ∧ first ≠ '-' :=
  ⟨Numeral.ne_of_isDigit digit (by decide),
    Numeral.ne_of_isDigit digit (by decide)⟩

theorem isDigit_of_mem_head {text : List Char} {value : Nat}
    (spelled : Numeral.Spells text value) :
    ∀ first ∈ text.head?, first.isDigit = true :=
  fun _ member => spelled.digits _ (List.mem_of_mem_head? member)

/-! ## Exponents -/

theorem exponent?_eq_some_iff {text : List Char} {exponent : Int} :
    exponent? text = some exponent ↔ Power text exponent := by
  constructor
  · intro read
    cases text with
    | nil =>
        cases read
        exact .none
    | cons mark rest =>
        simp only [exponent?] at read
        split at read
        next isMark =>
          rcases signed_takeSign rest with ⟨sign, signed, whole⟩
          rcases Option.map_eq_some_iff.mp read with ⟨value, digits, rfl⟩
          rw [digits?_eq_some_iff] at digits
          have power := Power.written isMark signed digits
          rw [← whole] at power
          exact power
        next => cases read
  · intro power
    cases power with
    | none => rfl
    | written isMark signed spelled =>
        have unsigned first member :=
          unsigned_of_isDigit (isDigit_of_mem_head spelled first member)
        simp only [exponent?, if_pos isMark,
          takeSign_of_signed signed unsigned,
          digits?_eq_some_iff.mpr spelled]
        rfl

/-- An exponent begins with neither a digit nor a point. -/
theorem Power.first {text : List Char} {exponent : Int}
    (power : Power text exponent) :
    ∀ first ∈ text.head?, first.isDigit = false ∧ first ≠ '.' := by
  cases power with
  | none => exact nofun
  | written isMark signed spelled =>
      rintro first ⟨⟩
      rcases isMark with rfl | rfl <;> decide

/-! ## Mantissas -/

theorem takeFraction_of_first {text : List Char}
    (noPoint : ∀ first ∈ text.head?, first ≠ '.') :
    takeFraction text = ([], text) := by
  unfold takeFraction
  split
  · exact absurd rfl (noPoint '.' rfl)
  · rfl

/-- Digits are taken behind a point, and nothing without one. -/
theorem takeFraction_cases (text : List Char) :
    ∃ behind rest,
      takeFraction text = (behind, rest) ∧
        (∀ character ∈ behind, character.isDigit = true) ∧
        (text = '.' :: (behind ++ rest) ∨ behind = [] ∧ text = rest) := by
  unfold takeFraction
  split
  next rest =>
    refine ⟨_, _, rfl, fun _ => List.mem_takeWhile_imp, .inl ?_⟩
    rw [List.takeWhile_append_dropWhile]
  next => exact ⟨[], text, rfl, nofun, .inr ⟨rfl, rfl⟩⟩

/-- What is read of a text are a mantissa and an exponent. -/
theorem parts_of_coefficient? {text : List Char} {coefficient : Nat}
    {exponent : Int}
    (read : coefficient? text = some (coefficient, exponent)) :
    ∃ mantissa power places lift,
      text = mantissa ++ power ∧ Mantissa mantissa coefficient places ∧
        Power power lift ∧ exponent = lift - (places : Nat) := by
  have whole : text.takeWhile Char.isDigit ++ text.dropWhile Char.isDigit =
      text :=
    List.takeWhile_append_dropWhile
  have digitsBefore :
      ∀ character ∈ text.takeWhile Char.isDigit, character.isDigit = true :=
    fun _ => List.mem_takeWhile_imp
  rcases takeFraction_cases (text.dropWhile Char.isDigit) with
    ⟨behind, rest, taken, digitsBehind, tail⟩
  simp only [coefficient?, taken] at read
  split at read
  next => cases read
  next some =>
    rcases Option.map_eq_some_iff.mp read with ⟨lift, scaled, parts⟩
    rw [exponent?_eq_some_iff] at scaled
    cases parts
    have spelled : Numeral.Spells (text.takeWhile Char.isDigit ++ behind) _ :=
      { nonempty := by
          intro nothing
          rw [List.append_eq_nil_iff] at nothing
          rw [nothing.1, nothing.2] at some
          exact some rfl
        digits := by
          intro character member
          rcases List.mem_append.mp member with member | member
          · exact digitsBefore character member
          · exact digitsBehind character member
        value_eq := rfl }
    rcases tail with pointed | ⟨rfl, same⟩
    · refine ⟨_, rest, _, lift, ?_, .point spelled, scaled, rfl⟩
      rw [List.append_assoc, List.cons_append, ← pointed, whole]
    · refine ⟨_, rest, 0, lift, ?_, .whole spelled, scaled, rfl⟩
      rw [List.append_nil, ← same, whole]

/-- The parts of a numeral without a sign. -/
theorem coefficient?_of_parts {mantissa power : List Char}
    {coefficient places : Nat} {lift : Int}
    (digits : Mantissa mantissa coefficient places)
    (scaled : Power power lift) :
    coefficient? (mantissa ++ power) = some (coefficient, lift - places) := by
  have lifted := exponent?_eq_some_iff.mpr scaled
  have stops first member := (scaled.first first member).1
  have noPoint first member := (scaled.first first member).2
  cases digits with
  | whole spelled =>
      rcases span_digits spelled.digits stops with ⟨taken, left⟩
      have nonempty := List.isEmpty_eq_false_iff.mpr spelled.nonempty
      simp only [coefficient?, taken, left, takeFraction_of_first noPoint,
        nonempty, Bool.false_and, List.append_nil, spelled.value_eq, lifted]
      rfl
  | @point before behind _ spelled =>
      have pointStops :
          ∀ first ∈ ('.' :: (behind ++ power)).head?,
            first.isDigit = false := by
        rintro first ⟨⟩
        rfl
      rcases span_digits spelled.isDigit_left pointStops with ⟨taken, left⟩
      rcases span_digits spelled.isDigit_right stops with
        ⟨takenBehind, leftBehind⟩
      have some : (before.isEmpty && behind.isEmpty) = false := by
        rw [← Bool.not_eq_true, Bool.and_eq_true, List.isEmpty_iff,
          List.isEmpty_iff, ← List.append_eq_nil_iff]
        exact spelled.nonempty
      rw [List.append_assoc, List.cons_append]
      simp only [coefficient?, taken, left, takeFraction, takenBehind,
        leftBehind, some, spelled.value_eq, lifted]
      rfl

/-- A mantissa begins with a digit or with a point. -/
theorem Mantissa.first {text : List Char} {coefficient places : Nat}
    (mantissa : Mantissa text coefficient places) (rest : List Char) :
    ∃ first ∈ (text ++ rest).head?,
      first.isDigit = true ∨ first = '.' := by
  cases mantissa with
  | whole spelled =>
      rcases List.exists_cons_of_ne_nil spelled.nonempty with
        ⟨first, others, rfl⟩
      exact ⟨first, rfl, .inl (spelled.digits _ List.mem_cons_self)⟩
  | @point before behind _ spelled =>
      cases before with
      | nil => exact ⟨'.', rfl, .inr rfl⟩
      | cons first others =>
          exact ⟨first, rfl,
            .inl (spelled.digits _ List.mem_cons_self)⟩

/-- A text is a mantissa in one way at most. -/
theorem Mantissa.unique {text : List Char} {coefficient places : Nat}
    {otherCoefficient otherPlaces : Nat}
    (left : Mantissa text coefficient places)
    (right : Mantissa text otherCoefficient otherPlaces) :
    coefficient = otherCoefficient ∧ places = otherPlaces := by
  have first := coefficient?_of_parts left .none
  have second := coefficient?_of_parts right .none
  rw [first, Option.some.injEq, Prod.mk.injEq] at second
  exact ⟨second.1, by omega⟩

/-- The characters of a mantissa are digits and a point. -/
theorem Mantissa.not_mem {text : List Char} {coefficient places : Nat}
    {other : Char} (mantissa : Mantissa text coefficient places)
    (noDigit : other.isDigit = false) (noPoint : other ≠ '.') :
    other ∉ text := by
  cases mantissa with
  | whole spelled => exact spelled.not_mem noDigit
  | point spelled =>
      have outside := spelled.not_mem noDigit
      rw [List.mem_append, not_or] at outside
      rw [List.mem_append, List.mem_cons]
      rintro (before | point | behind)
      · exact outside.1 before
      · exact noPoint point
      · exact outside.2 behind

/-! ## Words -/

theorem word?_eq_some_iff {text : List Char} {number : Binary64} :
    word? text = some number ↔
      (IsWord text "inf" ∨ IsWord text "infinity") ∧
          number = infinity false ∨
        IsWord text "nan" ∧ number = nan := by
  unfold word? IsWord
  constructor
  · intro read
    split at read
    next small =>
      cases read
      exact .inl ⟨.inl small, rfl⟩
    next small =>
      cases read
      exact .inl ⟨.inr small, rfl⟩
    next small =>
      cases read
      exact .inr ⟨small, rfl⟩
    next => cases read
  · rintro (⟨small | small, rfl⟩ | ⟨small, rfl⟩) <;> rw [small] <;> rfl

theorem toLower_of_isDigit {character : Char}
    (digit : character.isDigit = true) : character.toLower = character := by
  have digits : 48 ≤ character.val.toNat ∧ character.val.toNat ≤ 57 := by
    simpa [Char.isDigit, UInt32.le_iff_toNat_le] using digit
  unfold Char.toLower
  apply dif_neg
  rintro ⟨upper, -⟩
  rw [ge_iff_le, UInt32.le_iff_toNat_le] at upper
  have first : 'A'.val.toNat = 65 := rfl
  omega

theorem head_of_isWord {text : List Char} {word : String} {first : Char}
    (isWord : IsWord text word) (member : first ∈ text.head?) :
    word.toList.head? = some first.toLower := by
  rw [← isWord, String.toList_ofList, List.head?_map]
  exact Option.mem_map_of_mem _ member

/-- A word begins with a letter, and so with no part of a numeral. -/
theorem first_of_word {text : List Char} {number : Binary64}
    (read : word? text = some number) {first : Char}
    (member : first ∈ text.head?) :
    first.isDigit = false ∧ first ≠ '.' ∧ first ≠ '+' ∧ first ≠ '-' := by
  have letter : first.toLower = 'i' ∨ first.toLower = 'n' := by
    rcases word?_eq_some_iff.mp read with ⟨isWord | isWord, -⟩ | ⟨isWord, -⟩
    · exact .inl (Option.some.inj (head_of_isWord isWord member)).symm
    · exact .inl (Option.some.inj (head_of_isWord isWord member)).symm
    · exact .inr (Option.some.inj (head_of_isWord isWord member)).symm
  have apart {other : Char} (same : other.toLower = other)
      (noLetter : other ≠ 'i' ∧ other ≠ 'n') : first ≠ other := by
    rintro rfl
    rw [same] at letter
    exact not_or.mpr noLetter letter
  refine ⟨?_, apart rfl (by decide), apart rfl (by decide),
    apart rfl (by decide)⟩
  rw [← Bool.not_eq_true]
  intro digit
  apply apart (toLower_of_isDigit digit) _ rfl
  exact ⟨Numeral.ne_of_isDigit digit (by decide),
    Numeral.ne_of_isDigit digit (by decide)⟩

theorem coefficient?_of_word {text : List Char} {number : Binary64}
    (read : word? text = some number) : coefficient? text = none := by
  by_contra numeral
  rcases Option.ne_none_iff_exists'.mp numeral with ⟨⟨_, _⟩, parts⟩
  rcases parts_of_coefficient? parts with
    ⟨mantissa, power, _, _, rfl, digits, -⟩
  rcases digits.first power with ⟨first, member, digit | rfl⟩
  · have letter := (first_of_word read member).1
    rw [digit] at letter
    cases letter
  · exact (first_of_word read member).2.1 rfl

/-! ## Texts of numbers -/

theorem magnitude_of_coefficient? {text : List Char} {coefficient : Nat}
    {exponent : Int}
    (read : coefficient? text = some (coefficient, exponent)) :
    Magnitude text (ofDecimal coefficient exponent) := by
  rcases parts_of_coefficient? read with
    ⟨mantissa, power, places, lift, rfl, digits, scaled, rfl⟩
  rcases nearest_ofDecimal coefficient (lift - places) with
    ⟨code, value, nearest⟩
  rw [value]
  exact .numeral digits scaled nearest

theorem magnitude_of_word? {text : List Char} {number : Binary64}
    (read : word? text = some number) : Magnitude text number := by
  rcases word?_eq_some_iff.mp read with ⟨isWord, rfl⟩ | ⟨isWord, rfl⟩
  · exact .infinite isWord
  · exact .noNumber isWord

/-- What stands behind the sign is a numeral or else a word. -/
theorem Magnitude.read {text : List Char} {number : Binary64}
    (magnitude : Magnitude text number) :
    (∃ coefficient exponent,
        coefficient? text = some (coefficient, exponent) ∧
          ofDecimal coefficient exponent = number) ∨
      coefficient? text = none ∧ word? text = some number := by
  have word {text : List Char} {number : Binary64}
      (read : word? text = some number) :
      coefficient? text = none ∧ word? text = some number :=
    ⟨coefficient?_of_word read, read⟩
  cases magnitude with
  | @numeral _ _ coefficient places _ exponent digits scaled nearest =>
      rcases nearest_ofDecimal coefficient (exponent - places) with
        ⟨code, value, rounded⟩
      rw [nearest_unique nearest rounded]
      exact .inl ⟨_, _, coefficient?_of_parts digits scaled, value⟩
  | infinite isWord =>
      exact .inr (word (word?_eq_some_iff.mpr (.inl ⟨isWord, rfl⟩)))
  | noNumber isWord =>
      exact .inr (word (word?_eq_some_iff.mpr (.inr ⟨isWord, rfl⟩)))

theorem Magnitude.unsigned {text : List Char} {number : Binary64}
    (magnitude : Magnitude text number) :
    ∀ first ∈ text.head?, first ≠ '+' ∧ first ≠ '-' := by
  intro first member
  rcases magnitude.read with ⟨_, _, parts, -⟩ | ⟨-, word⟩
  · rcases parts_of_coefficient? parts with
      ⟨mantissa, power, _, _, rfl, digits, -⟩
    rcases digits.first power with ⟨other, head, start⟩
    cases Option.mem_unique head member
    rcases start with digit | rfl
    · exact unsigned_of_isDigit digit
    · decide
  · exact (first_of_word word member).2.2

/-- A numeral without a sign and an exponent denotes the nearest number. -/
theorem denotes_of_mantissa {text : List Char} {coefficient places : Nat}
    {code : Nat} (digits : Mantissa text coefficient places)
    (nearest : Nearest (coefficient * 10 ^ (-(places : Int))) code) :
    Denotes text (ofCode false code) := by
  have exponent : -(places : Int) = 0 - places := by omega
  rw [exponent] at nearest
  have denotes :=
    Denotes.signed .none (.numeral digits .none nearest)
  rwa [List.nil_append, List.append_nil, withSign,
    code_ofCode false code nearest.lt_signPlace] at denotes

/-- Exactly the texts of the grammar are read, as the numbers they denote. -/
theorem ofText?_eq_some_iff {text : List Char} {number : Binary64} :
    ofText? text = some number ↔ Denotes text number := by
  constructor
  · intro read
    rcases signed_takeSign text with ⟨sign, signed, whole⟩
    simp only [ofText?] at read
    rcases Option.map_eq_some_iff.mp read with ⟨magnitude, unsigned, rfl⟩
    have denoted : Magnitude (takeSign text).2 magnitude := by
      split at unsigned
      next parts =>
        cases unsigned
        exact magnitude_of_coefficient? parts
      next => exact magnitude_of_word? unsigned
    have denotes := Denotes.signed signed denoted
    rwa [← whole] at denotes
  · rintro ⟨signed, magnitude⟩
    simp only [ofText?, takeSign_of_signed signed magnitude.unsigned]
    rcases magnitude.read with ⟨_, _, parts, rfl⟩ | ⟨noParts, word⟩
    · rw [parts]
      rfl
    · rw [noParts, word]
      rfl

end Chip8.Binary64
