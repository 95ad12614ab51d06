import Chip8.Proofs.Binary64.Grammar
import Chip8.Proofs.Speed.Value
import Chip8.Proofs.Text.Trimming
import Chip8.Speed.Text

/-!
# The grammar of speeds

A speed is written as a fraction of two whole numbers, as a whole number or as
a number with places, with blanks and a mark around it.  `Reads` relates a text
to what becomes of it, by its grammar alone, and `ofText_follows_grammar` says
that reading keeps to this for all texts.

The forms are tried in turn, so a text is of a later form only if it is of no
earlier one; a whole number with too many digits still is a number.
-/

namespace Chip8

/-- An error as it is reported for another text. -/
def SpeedError.carrying (text : String) : SpeedError → SpeedError
  | .unreadable _ => .unreadable text
  | error => error

namespace Speed

open Text

/-! ## The grammar -/

/-- Whether the last character, if there is one, is no mark. -/
def NoMark (text : List Char) : Prop :=
  ∀ last ∈ text.getLast?, last ≠ 'x' ∧ last ≠ 'X'

/-- The part of a text inside the blanks and the mark. -/
inductive Core (text number : List Char) : Prop where
  | marked {bare : List Char} {mark : Char}
      (isMark : mark = 'x' ∨ mark = 'X')
      (around : Trims text (bare ++ [mark])) (inside : Trims bare number)
  | unmarked (around : Trims text number) (noMark : NoMark number)

/-- A whole number of thirty-two bits, with or without a plus. -/
inductive IsPart : List Char → Nat → Prop where
  | digits {text : List Char} {value : Nat}
      (spelled : Numeral.Spells text value)
      (fits : value ≤ greatestCount) : IsPart text value
  | plus {text : List Char} {value : Nat}
      (spelled : Numeral.Spells text value)
      (fits : value ≤ greatestCount) : IsPart ('+' :: text) value

/-- A part with blanks around it. -/
def IsSide (text : List Char) (value : Nat) : Prop :=
  ∃ part, Trims text part ∧ IsPart part value

/-- What becomes of a ratio; a zero denominator is reported first. -/
inductive Makes (numerator denominator : Nat) :
    Except SpeedError Speed → Prop where
  | zeroDenominator (zero : denominator = 0) :
      Makes numerator denominator (.error .zeroDenominator)
  | zeroNumerator (zero : numerator = 0) (positive : 0 < denominator) :
      Makes numerator denominator (.error .zeroNumerator)
  | speed {speed : Speed} (positive : 0 < numerator ∧ 0 < denominator)
      (value_eq : speed.value = numerator / denominator) :
      Makes numerator denominator (.ok speed)

/-- What becomes of a text; an error of form carries the whole text. -/
inductive Reads (text : String) : Except SpeedError Speed → Prop where
  | fraction {left right : List Char} {numerator denominator : Nat}
      {result : Except SpeedError Speed}
      (core : Core text.toList (left ++ '/' :: right))
      (first : '/' ∉ left) (upper : IsSide left numerator)
      (lower : IsSide right denominator)
      (makes : Makes numerator denominator result) : Reads text result
  | noFraction {left right : List Char}
      (core : Core text.toList (left ++ '/' :: right))
      (first : '/' ∉ left)
      (noSides :
        ¬ ((∃ numerator, IsSide left numerator) ∧
          ∃ denominator, IsSide right denominator)) :
      Reads text (.error (.unreadable text))
  | whole {number : List Char} {value : Nat}
      {result : Except SpeedError Speed} (core : Core text.toList number)
      (noSlash : '/' ∉ number) (part : IsPart number value)
      (makes : Makes value 1 result) : Reads text result
  | number {number : List Char} {value : Binary64}
      (core : Core text.toList number) (noSlash : '/' ∉ number)
      (noPart : ¬ ∃ whole, IsPart number whole)
      (denotes : Binary64.Denotes number value) :
      Reads text (ofBinary64 value)
  | unreadable {number : List Char} (core : Core text.toList number)
      (noSlash : '/' ∉ number) (noPart : ¬ ∃ whole, IsPart number whole)
      (noNumber : ¬ ∃ value, Binary64.Denotes number value) :
      Reads text (.error (.unreadable text))

/-! ## Marks -/

/-- A last character other than a mark is kept. -/
theorem dropMark_of_noMark {text : List Char} (noMark : NoMark text) :
    dropMark text = text := by
  unfold dropMark
  split
  next last => exact absurd rfl (noMark 'x' last).1
  next last => exact absurd rfl (noMark 'X' last).2
  next => rfl

theorem dropMark_append {mark : Char} (isMark : mark = 'x' ∨ mark = 'X')
    (bare : List Char) : dropMark (bare ++ [mark]) = bare := by
  rw [dropMark, List.getLast?_concat]
  rcases isMark with rfl | rfl <;> exact List.dropLast_concat

theorem core_eq_iff {text number : List Char} :
    core text = number ↔ Core text number := by
  constructor
  · rintro rfl
    by_cases noMark : NoMark (trim text)
    · have solid := trims_trim text
      have again := trim_of_solid solid.first_solid solid.last_solid
      rw [core, dropMark_of_noMark noMark, again]
      exact .unmarked solid noMark
    · simp only [NoMark, not_forall, not_and_or, not_not] at noMark
      rcases noMark with ⟨mark, last, isMark⟩
      rcases List.getLast?_eq_some_iff.mp last with ⟨bare, whole⟩
      rw [core, whole, dropMark_append isMark]
      exact .marked isMark (trim_eq_iff.mp whole) (trims_trim bare)
  · intro inside
    cases inside with
    | marked isMark around inside =>
        rw [core, trim_eq_iff.mpr around, dropMark_append isMark]
        exact trim_eq_iff.mpr inside
    | unmarked around noMark =>
        rw [core, trim_eq_iff.mpr around, dropMark_of_noMark noMark]
        exact trim_of_solid around.first_solid around.last_solid

/-! ## Slashes -/

theorem ne_slash_of_not_mem {text : List Char} (absent : '/' ∉ text) :
    ∀ character ∈ text, (character != '/') = true := by
  intro character member
  rw [bne_iff_ne]
  rintro rfl
  exact absent member

theorem splitSlash_of_not_mem {text : List Char} (absent : '/' ∉ text) :
    splitSlash? text = none := by
  have rest : text.dropWhile (· != '/') = [] :=
    List.dropWhile_eq_nil_iff.mpr (ne_slash_of_not_mem absent)
  rw [splitSlash?, rest]

theorem splitSlash_append {left : List Char} (right : List Char)
    (absent : '/' ∉ left) :
    splitSlash? (left ++ '/' :: right) = some (left, right) := by
  have clear := ne_slash_of_not_mem absent
  have rest :
      (left ++ '/' :: right).dropWhile (· != '/') = '/' :: right :=
    List.dropWhile_append_of_pos clear
  have before :
      (left ++ '/' :: right).takeWhile (· != '/') = left ++ [] :=
    List.takeWhile_append_of_pos clear
  rw [splitSlash?, rest, before, List.append_nil]

/-! ## Parts -/

/-- The words of thirty-two bits stand for all parts. -/
theorem isPart_iff {text : List Char} {value : Nat} :
    IsPart text value ↔
      ∃ part : UInt32, part? text = some part ∧ part.toNat = value := by
  constructor
  · intro isPart
    cases isPart with
    | digits spelled fits =>
        have unsigned := spelled.not_mem (by decide : '+'.isDigit = false)
        refine ⟨.ofNat value, ?_, toNat_ofNat fits⟩
        unfold part?
        split
        next rest => exact absurd List.mem_cons_self unsigned
        next =>
          simp only [Binary64.digits?_eq_some_iff.mpr spelled]
          exact if_pos fits
    | plus spelled fits =>
        refine ⟨.ofNat value, ?_, toNat_ofNat fits⟩
        simp only [part?, Binary64.digits?_eq_some_iff.mpr spelled]
        exact if_pos fits
  · rintro ⟨part, read, rfl⟩
    unfold part? at read
    dsimp only at read
    split at read
    next value digits =>
      split at read
      next fits =>
        cases read
        rw [toNat_ofNat fits]
        rw [Binary64.digits?_eq_some_iff] at digits
        split at digits
        · exact .plus digits fits
        · exact .digits digits fits
      next => cases read
    next => cases read

theorem part?_eq_none_iff {text : List Char} :
    part? text = none ↔ ¬ ∃ value, IsPart text value := by
  simp only [isPart_iff]
  constructor
  · rintro nothing ⟨value, part, read, -⟩
    rw [nothing] at read
    cases read
  · intro noPart
    rw [Option.eq_none_iff_forall_ne_some]
    exact fun part read => noPart ⟨_, part, read, rfl⟩

theorem isSide_iff {text : List Char} {value : Nat} :
    IsSide text value ↔
      ∃ part : UInt32,
        part? (trim text) = some part ∧ part.toNat = value := by
  rw [← isPart_iff]
  constructor
  · rintro ⟨part, around, isPart⟩
    rwa [trim_eq_iff.mpr around]
  · exact fun isPart => ⟨_, trims_trim text, isPart⟩

/-! ## Ratios -/

theorem ofRatio_eq_iff {numerator denominator : UInt32}
    {result : Except SpeedError Speed} :
    ofRatio numerator denominator = result ↔
      Makes numerator.toNat denominator.toNat result := by
  constructor
  · rintro rfl
    cases made : ofRatio numerator denominator with
    | ok speed =>
        have positive := (ofRatio_eq_ok_iff _ _).mp ⟨speed, made⟩
        exact .speed positive (value_of_ofRatio made)
    | error error =>
        unfold ofRatio at made
        split at made
        next zero =>
          cases made
          exact .zeroDenominator zero
        next nonzero =>
          split at made
          next zero =>
            cases made
            exact .zeroNumerator zero (Nat.pos_of_ne_zero nonzero)
          next => cases made
  · intro makes
    cases makes with
    | zeroDenominator zero =>
        unfold ofRatio
        exact dif_pos zero
    | zeroNumerator zero positive =>
        unfold ofRatio
        rw [dif_neg positive.ne', dif_pos zero]
    | speed positive value_eq =>
        rcases exists_ofRatio positive.1 positive.2 with
          ⟨other, made, otherValue⟩
        rw [made, value_inj.mp (otherValue.trans value_eq.symm)]

theorem ofWhole_eq_iff {whole : UInt32}
    {result : Except SpeedError Speed} :
    ofWhole whole = result ↔ Makes whole.toNat 1 result :=
  ofRatio_eq_iff

/-! ## Reading -/

/-- What becomes of a text is of one of its forms. -/
theorem reads_ofText (text : String) : Reads text (ofText text) := by
  have inside := core_eq_iff.mp (rfl : core text.toList = _)
  by_cases slash : '/' ∈ core text.toList
  · rcases List.eq_append_cons_of_mem slash with ⟨left, right, whole, first⟩
    have parts := splitSlash_append right first
    rw [whole] at inside
    simp only [ofText, whole, parts]
    split
    next upper lower =>
      exact .fraction inside first (isSide_iff.mpr ⟨_, upper, rfl⟩)
        (isSide_iff.mpr ⟨_, lower, rfl⟩) (ofRatio_eq_iff.mp rfl)
    next noParts =>
      refine .noFraction inside first ?_
      simp only [isSide_iff]
      rintro ⟨⟨_, _, upper, -⟩, _, _, lower, -⟩
      exact noParts _ _ upper lower
  · have unsplit := splitSlash_of_not_mem slash
    simp only [ofText, unsplit]
    split
    next part =>
      exact .whole inside slash (isPart_iff.mpr ⟨_, part, rfl⟩)
        (ofWhole_eq_iff.mp rfl)
    next noPart =>
      rw [part?_eq_none_iff] at noPart
      split
      next read =>
        exact .number inside slash noPart
          (Binary64.ofText?_eq_some_iff.mp read)
      next unread =>
        refine .unreadable inside slash noPart ?_
        rintro ⟨value, denotes⟩
        rw [Binary64.ofText?_eq_some_iff.mpr denotes] at unread
        cases unread

/-- The forms of texts exclude each other. -/
theorem ofText_of_reads {text : String} {result : Except SpeedError Speed}
    (reads : Reads text result) : ofText text = result := by
  cases reads with
  | fraction inside first upper lower makes =>
      rcases isSide_iff.mp upper with ⟨numerator, left, rfl⟩
      rcases isSide_iff.mp lower with ⟨denominator, right, rfl⟩
      simp only [ofText, core_eq_iff.mpr inside,
        splitSlash_append _ first, left, right]
      exact ofRatio_eq_iff.mpr makes
  | noFraction inside first noSides =>
      simp only [ofText, core_eq_iff.mpr inside, splitSlash_append _ first]
      split
      next upper lower =>
        have left := isSide_iff.mpr ⟨_, upper, rfl⟩
        have right := isSide_iff.mpr ⟨_, lower, rfl⟩
        exact absurd ⟨⟨_, left⟩, _, right⟩ noSides
      next => rfl
  | whole inside noSlash part makes =>
      rcases isPart_iff.mp part with ⟨part, read, rfl⟩
      simp only [ofText, core_eq_iff.mpr inside,
        splitSlash_of_not_mem noSlash, read]
      exact ofWhole_eq_iff.mpr makes
  | number inside noSlash noPart denotes =>
      simp only [ofText, core_eq_iff.mpr inside,
        splitSlash_of_not_mem noSlash, part?_eq_none_iff.mpr noPart,
        Binary64.ofText?_eq_some_iff.mpr denotes]
  | unreadable inside noSlash noPart noNumber =>
      simp only [ofText, core_eq_iff.mpr inside,
        splitSlash_of_not_mem noSlash, part?_eq_none_iff.mpr noPart]
      split
      next read =>
        exact absurd ⟨_, Binary64.ofText?_eq_some_iff.mp read⟩ noNumber
      next => rfl

theorem ofText_eq_iff {text : String} {result : Except SpeedError Speed} :
    ofText text = result ↔ Reads text result := by
  constructor
  · rintro rfl
    exact reads_ofText text
  · exact ofText_of_reads

/-! ## Texts with the same core -/

theorem mapError_ofRatio (text : String) (numerator denominator : UInt32) :
    (ofRatio numerator denominator).mapError (SpeedError.carrying text) =
      ofRatio numerator denominator := by
  unfold ofRatio
  split
  · rfl
  · split <;> rfl

theorem mapError_ofBinary64 (text : String) (value : Binary64) :
    (ofBinary64 value).mapError (SpeedError.carrying text) =
      ofBinary64 value := by
  unfold ofBinary64
  dsimp only
  split
  · rfl
  · split
    · rfl
    · split
      · rfl
      · split
        · rfl
        · exact mapError_ofRatio text _ _

/-- Only an error of form tells apart texts with the same core. -/
theorem ofText_of_core_eq {text other : String}
    (same : core other.toList = core text.toList) :
    ofText other = (ofText text).mapError (SpeedError.carrying other) := by
  simp only [ofText, same]
  split
  · split
    · exact (mapError_ofRatio other _ _).symm
    · rfl
  · split
    · exact (mapError_ofRatio other _ _).symm
    · split
      · exact (mapError_ofBinary64 other _).symm
      · rfl

/-! ## Blanks and marks around a text -/

theorem core_of_noMark {text : List Char} (noMark : NoMark (trim text)) :
    core text = trim text :=
  core_eq_iff.mpr (.unmarked (trims_trim text) noMark)

theorem core_concat (text : List Char) {mark : Char}
    (isMark : mark = 'x' ∨ mark = 'X') :
    core (text ++ [mark]) = trim text := by
  have solid : isBlank mark = false := by
    rcases isMark with rfl | rfl <;> decide
  rw [core, trim_concat text solid, dropMark_append isMark,
    trim_trimStart]

/-- Blanks, and a mark between them, leave the core as it is. -/
theorem core_around {text before between mark after : List Char}
    (blankBefore : AllBlank before) (blankBetween : AllBlank between)
    (blankAfter : AllBlank after)
    (isMark : mark = [] ∨ mark = ['x'] ∨ mark = ['X'])
    (noMark : NoMark (trim text)) :
    core (before ++ text ++ between ++ mark ++ after) = core text := by
  have bare : trim (text ++ between) = trim text :=
    trim_append_right text blankBetween
  have marked :
      core (text ++ between ++ mark) = trim text := by
    rcases isMark with rfl | rfl | rfl
    · rw [← bare] at noMark
      rw [List.append_nil, core_of_noMark noMark, bare]
    · rw [core_concat _ (.inl rfl), bare]
    · rw [core_concat _ (.inr rfl), bare]
  rw [core_of_noMark noMark, ← marked, core, trim_append_right _ blankAfter,
    List.append_assoc, List.append_assoc, trim_append_left _ _ blankBefore,
    ← List.append_assoc]
  rfl

/--
Reading a text gives what its grammar says, and nothing else.  Blanks before
and behind a text, and a mark with blanks before it, change the result in no
other way than by the text that an error of form carries.
-/
theorem ofText_follows_grammar :
    (∀ text result, ofText text = result ↔ Reads text result) ∧
      ∀ text before between mark after : String,
        AllBlank before.toList → AllBlank between.toList →
          AllBlank after.toList → mark ∈ ["", "x", "X"] →
          NoMark (trim text.toList) →
          let whole := before ++ text ++ between ++ mark ++ after
          ofText whole =
            (ofText text).mapError (SpeedError.carrying whole) := by
  refine ⟨fun _ _ => ofText_eq_iff, ?_⟩
  intro text before between mark after blankBefore blankBetween blankAfter
    isMark noMark whole
  apply ofText_of_core_eq
  have characters :
      whole.toList =
        before.toList ++ text.toList ++ between.toList ++ mark.toList ++
          after.toList := by
    simp only [whole, String.toList_append]
  have markCharacters :
      mark.toList = [] ∨ mark.toList = ['x'] ∨ mark.toList = ['X'] := by
    simp only [List.mem_cons, List.not_mem_nil, or_false] at isMark
    rcases isMark with rfl | rfl | rfl
    · exact .inl rfl
    · exact .inr (.inl rfl)
    · exact .inr (.inr rfl)
  rw [characters]
  exact core_around blankBefore blankBetween blankAfter markCharacters noMark

end Speed

end Chip8
