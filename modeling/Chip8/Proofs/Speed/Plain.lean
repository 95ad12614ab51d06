import Chip8.Proofs.Speed.Grammar

/-!
# Speeds without blanks and marks

A text without blanks and marks is its own core.  Each of the three forms of a
speed is one, and what becomes of it is then read off the grammar; a mark
behind it makes no difference.
-/

namespace Chip8.Speed

open Binary64 Text

/-! ## Plain texts -/

/-- Neither blanks nor marks. -/
def Plain (text : List Char) : Prop :=
  ∀ character ∈ text,
    isBlank character = false ∧ character ≠ 'x' ∧ character ≠ 'X'

section

variable {text : List Char} (plain : Plain text)
include plain

theorem Plain.trims : Trims text text where
  around := by
    refine ⟨[], [], nofun, nofun, ?_⟩
    rw [List.nil_append, List.append_nil]
  first_solid _ member := (plain _ (List.mem_of_mem_head? member)).1
  last_solid _ member := (plain _ (List.mem_of_mem_getLast? member)).1

theorem Plain.core : Core text text :=
  .unmarked plain.trims fun _ member =>
    (plain _ (List.mem_of_mem_getLast? member)).2

end

theorem Plain.around {left right : List Char} {between : Char}
    (plainLeft : Plain left) (plainRight : Plain right)
    (plain : isBlank between = false ∧ between ≠ 'x' ∧ between ≠ 'X') :
    Plain (left ++ between :: right) := by
  intro character member
  rw [List.mem_append, List.mem_cons] at member
  rcases member with before | rfl | behind
  · exact plainLeft character before
  · exact plain
  · exact plainRight character behind

theorem plain_of_isDigit {text : List Char}
    (digits : ∀ character ∈ text, character.isDigit = true) :
    Plain text := by
  intro character member
  have digit := digits character member
  exact ⟨Numeral.isBlank_of_isDigit digit,
    Numeral.ne_of_isDigit digit (by decide),
    Numeral.ne_of_isDigit digit (by decide)⟩

/-- A text with a point in it is no part. -/
theorem point_not_mem_of_isPart {text : List Char} {value : Nat}
    (isPart : IsPart text value) : '.' ∉ text := by
  cases isPart with
  | digits spelled => exact spelled.not_mem (by decide)
  | plus spelled =>
      have behind := spelled.not_mem (by decide : '.'.isDigit = false)
      rw [List.mem_cons]
      exact not_or.mpr ⟨by decide, behind⟩

/-! ## Three forms of a speed -/

section

variable {text : String}

theorem ofText_digits {value : Nat} {result : Except SpeedError Speed}
    (spelled : Numeral.Spells text.toList value)
    (fits : value ≤ greatestCount) (makes : Makes value 1 result) :
    ofText text = result := by
  have noSlash := spelled.not_mem (by decide : '/'.isDigit = false)
  have core := (plain_of_isDigit spelled.digits).core
  exact ofText_of_reads (.whole core noSlash (.digits spelled fits) makes)

theorem ofText_fraction {left right : List Char}
    {numerator denominator : Nat} {result : Except SpeedError Speed}
    (characters : text.toList = left ++ '/' :: right)
    (upper : Numeral.Spells left numerator)
    (upperFits : numerator ≤ greatestCount)
    (lower : Numeral.Spells right denominator)
    (lowerFits : denominator ≤ greatestCount)
    (makes : Makes numerator denominator result) :
    ofText text = result := by
  have plainLeft := plain_of_isDigit upper.digits
  have plainRight := plain_of_isDigit lower.digits
  have core : Core text.toList (left ++ '/' :: right) := by
    rw [characters]
    exact (plainLeft.around plainRight (by decide)).core
  have first := upper.not_mem (by decide : '/'.isDigit = false)
  exact ofText_of_reads
    (.fraction core first ⟨left, plainLeft.trims, .digits upper upperFits⟩
      ⟨right, plainRight.trims, .digits lower lowerFits⟩ makes)

/-- Whatever has a point in it is read as a number. -/
theorem ofText_point {before behind : List Char} {coefficient : Nat}
    {number : Binary64} (characters : text.toList = before ++ '.' :: behind)
    (spelled : Numeral.Spells (before ++ behind) coefficient)
    (denotes : Denotes text.toList number) :
    ofText text = ofBinary64 number := by
  have plainBefore := plain_of_isDigit spelled.isDigit_left
  have plainBehind := plain_of_isDigit spelled.isDigit_right
  have core : Core text.toList text.toList := by
    rw [characters]
    exact (plainBefore.around plainBehind (by decide)).core
  have noSlash : '/' ∉ text.toList := by
    have apart {other : Char} (digit : other.isDigit = true) : other ≠ '/' :=
      Numeral.ne_of_isDigit digit (by decide)
    rw [characters, List.mem_append, List.mem_cons]
    rintro (member | same | member)
    · exact apart (spelled.isDigit_left _ member) rfl
    · cases same
    · exact apart (spelled.isDigit_right _ member) rfl
  have noPart : ¬ ∃ whole, IsPart text.toList whole := by
    rintro ⟨whole, isPart⟩
    apply point_not_mem_of_isPart isPart
    rw [characters]
    exact List.mem_append_right before List.mem_cons_self
  exact ofText_of_reads (.number core noSlash noPart denotes)

/-- A mark behind a text makes no difference. -/
theorem ofText_marked (plain : Plain text.toList) :
    ofText (text ++ "x") =
      (ofText text).mapError (SpeedError.carrying (text ++ "x")) := by
  have characters : (text ++ "x").toList = text.toList ++ ['x'] := by
    rw [String.toList_append]
    rfl
  apply ofText_of_core_eq
  rw [characters, core_concat _ (.inl rfl), trim_eq_iff.mpr plain.trims,
    core_eq_iff.mpr plain.core]

end

end Chip8.Speed
