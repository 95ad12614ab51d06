import Chip8.Listing
import Chip8.Pattern
import Mathlib.Data.List.Forall2

/-!
# Patterns describe decoding

The decoder and the patterns of the operations are two tables of one
instruction set, and neither looks at the other.  A word matches a pattern if
each of its nibbles is as the character in its place asks.  Decoding finds the
operation whose pattern a word matches, by `ofWord_of_matches` and
`matches_ofWord`; so patterns are disjoint, and the fallback is what matches
none of them.

The slots of a pattern tell more than its characters: which operand stands
where.  Each operand stands where its field is cut out of the word, which is
why the operands of an instruction give its word back.
-/

namespace Chip8

/-! ## Matching character by character -/

namespace Slot

/-- What a character of a pattern asks of a nibble. -/
def Allows (character : Char) (nibble : UInt8) : Prop :=
  match digit? character with
  | some asked => nibble = asked
  | none => character ∈ ['x', 'y', 'n', 'k', '_']

theorem allows_digit {character : Char} {asked : UInt8}
    (isDigit : digit? character = some asked) (nibble : UInt8) :
    Allows character nibble ↔ nibble = asked := by
  rw [Allows, isDigit]

theorem allows_wildcard {character : Char}
    (wildcard : character ∈ ['x', 'y', 'n', 'k', '_']) (nibble : UInt8) :
    Allows character nibble := by
  have noDigit : digit? character = none := by
    simp only [List.mem_cons, List.not_mem_nil, or_false] at wildcard
    rcases wildcard with rfl | rfl | rfl | rfl | rfl <;> rfl
  rw [Allows, noDigit]
  exact wildcard

/-- The slots of a pattern fix the nibbles that its characters ask for. -/
theorem agree_fixed_iff {text : List Char} {slots : List Slot}
    (read : ofPattern? text = some slots) (nibbles : List UInt8) :
    agree (slots.flatMap fixed) nibbles = true ↔
      List.Forall₂ Allows text nibbles := by
  fun_induction ofPattern? text generalizing slots nibbles with
  | case1 =>
      cases read
      cases nibbles <;> simp [agree]
  | case2 rest ih =>
      obtain ⟨later, readRest, rfl⟩ := Option.map_eq_some_iff.mp read
      rcases nibbles with _ | ⟨_, _ | ⟨_, _ | _⟩⟩
      all_goals simp [agree, fixed, allows_wildcard, ih readRest]
  | case3 rest ih =>
      obtain ⟨later, readRest, rfl⟩ := Option.map_eq_some_iff.mp read
      rcases nibbles with _ | ⟨_, _ | _⟩
      all_goals simp [agree, fixed, allows_wildcard, ih readRest]
  | case4 rest _ ih | case5 rest ih | case6 rest ih | case7 rest ih =>
      obtain ⟨later, readRest, rfl⟩ := Option.map_eq_some_iff.mp read
      cases nibbles
      all_goals simp [agree, fixed, allows_wildcard, ih readRest]
  | case8 character rest _ _ _ _ _ _ asked isDigit ih =>
      obtain ⟨later, readRest, rfl⟩ := Option.map_eq_some_iff.mp read
      cases nibbles
      all_goals
        simp [agree, fixed, allows_digit isDigit, ih readRest,
          eq_comm (a := asked)]
  | case9 => cases read

/-- Digits leave no choice of the nibbles. -/
theorem nibbles_eq_of_digits {text : List Char} {left right : List UInt8}
    (digits : (text.all fun character => (digit? character).isSome) = true)
    (first : List.Forall₂ Allows text left)
    (second : List.Forall₂ Allows text right) : left = right := by
  induction first generalizing right with
  | nil =>
      cases second
      rfl
  | cons allowed rest ih =>
      cases second with
      | cons other later =>
          rw [List.all_cons, Bool.and_eq_true] at digits
          obtain ⟨asked, isDigit⟩ := Option.isSome_iff_exists.mp digits.1
          rw [allows_digit isDigit] at allowed other
          rw [allowed, other, ih digits.2 later]

end Slot

/-- Whether the nibbles of a word are as the characters of a pattern ask. -/
def Word.Matches (word : Word) (pattern : String) : Prop :=
  List.Forall₂ Slot.Allows pattern.toList word.nibbles

namespace Word

/-- The pattern of the fallback asks for what no nibble is. -/
theorem not_matches_noOperation (word : Word) :
    ¬ word.Matches (Operation.pattern .noOperation) := by
  intro fits
  simp [Matches, Operation.pattern, Slot.Allows, Slot.digit?, nibbles]
    at fits

theorem fits_iff_matches (word : Word) (operation : Operation) :
    word.fits operation = true ↔ word.Matches operation.pattern := by
  unfold fits
  split
  next slots read => exact Slot.agree_fixed_iff read word.nibbles
  next none =>
    rw [(Operation.slots?_eq_none_iff operation).mp none]
    simp [word.not_matches_noOperation]

/-- A pattern of digits alone is the pattern of one word. -/
theorem eq_of_matches_digits {left right : Word} {pattern : String}
    (digits :
      (pattern.toList.all fun character =>
        (Slot.digit? character).isSome) = true)
    (first : left.Matches pattern) (second : right.Matches pattern) :
    left = right :=
  eq_of_nibbles_eq (Slot.nibbles_eq_of_digits digits first second)

theorem matches_clearScreen_iff (word : Word) :
    word.Matches (Operation.pattern .clearScreen) ↔ word = ⟨0x00E0⟩ := by
  have itself :
      Word.Matches ⟨0x00E0⟩ (Operation.pattern .clearScreen) :=
    (fits_iff_matches _ _).mp (by decide)
  constructor
  · intro fits
    exact eq_of_matches_digits rfl fits itself
  · rintro rfl
    exact itself

theorem matches_returnCall_iff (word : Word) :
    word.Matches (Operation.pattern .returnCall) ↔ word = ⟨0x00EE⟩ := by
  have itself :
      Word.Matches ⟨0x00EE⟩ (Operation.pattern .returnCall) :=
    (fits_iff_matches _ _).mp (by decide)
  constructor
  · intro fits
    exact eq_of_matches_digits rfl fits itself
  · rintro rfl
    exact itself

end Word

/-! ## Decoding finds the pattern -/

namespace Operation

/--
A word that matches the pattern of an operation is decoded to it.  The digits
of the pattern are what the decoder looks at; only the low byte has to be put
together of two of them.
-/
theorem ofWord_of_matches {word : Word} {operation : Operation}
    (fits : word.Matches operation.pattern) :
    ofWord .fullByte word = operation := by
  cases operation with
  | noOperation => exact absurd fits word.not_matches_noOperation
  | clearScreen =>
      rw [word.matches_clearScreen_iff.mp fits]
      rfl
  | returnCall =>
      rw [word.matches_returnCall_iff.mp fits]
      rfl
  | _ =>
      simp [Word.Matches, pattern, Slot.Allows, Slot.digit?, Word.nibbles]
        at fits
      simp [ofWord, ofArithmetic, ofKey, ofDevice, Word.kk_eq, fits]

section

variable {word : Word}

theorem matches_zeroGroup
    (known : ZeroGroup.fullByte.operation word ≠ .noOperation) :
    word.Matches (ZeroGroup.fullByte.operation word).pattern := by
  simp only [ZeroGroup.operation] at known ⊢
  split
  next clear => exact word.matches_clearScreen_iff.mpr clear
  next notClear =>
    split
    next back => exact word.matches_returnCall_iff.mpr back
    next notBack =>
      rw [if_neg notClear, if_neg notBack] at known
      exact absurd rfl known

theorem matches_ofArithmetic (group : word.group = 0x8)
    (known : ofArithmetic word.n ≠ .noOperation) :
    word.Matches (ofArithmetic word.n).pattern := by
  unfold ofArithmetic at known ⊢
  split at known
  all_goals
    simp_all [Word.Matches, pattern, Slot.Allows, Slot.digit?, Word.nibbles]

theorem matches_ofKey (group : word.group = 0xE)
    (known : ofKey word.n ≠ .noOperation) :
    word.Matches (ofKey word.n).pattern := by
  unfold ofKey at known ⊢
  split at known
  all_goals
    simp_all [Word.Matches, pattern, Slot.Allows, Slot.digit?, Word.nibbles]

theorem matches_ofDevice (group : word.group = 0xF)
    (known : ofDevice word.kk ≠ .noOperation) :
    word.Matches (ofDevice word.kk).pattern := by
  unfold ofDevice at known ⊢
  split at known
  all_goals
    simp_all [Word.Matches, pattern, Slot.Allows, Slot.digit?, Word.nibbles,
      Word.y_eq_kk_div, Word.n_eq_kk_mod]

/--
A word that is decoded to an operation matches the pattern of it.  Four groups
have a table of their own, and some words are in no group at all.
-/
theorem matches_ofWord (known : ofWord .fullByte word ≠ .noOperation) :
    word.Matches (ofWord .fullByte word).pattern := by
  unfold ofWord at known ⊢
  split at known
  case h_1 => exact matches_zeroGroup known
  case h_9 group => exact matches_ofArithmetic group known
  case h_15 group => exact matches_ofKey group known
  case h_16 group => exact matches_ofDevice group known
  case h_17 => exact absurd rfl known
  all_goals
    simp_all [Word.Matches, pattern, Slot.Allows, Slot.digit?, Word.nibbles]

end

/-- Decoding and matching agree on every operation but the fallback. -/
theorem ofWord_eq_iff_matches {operation : Operation}
    (known : operation ≠ .noOperation) (word : Word) :
    ofWord .fullByte word = operation ↔ word.Matches operation.pattern := by
  constructor
  · rintro rfl
    exact matches_ofWord known
  · exact ofWord_of_matches

/-- The fallback is what matches no pattern. -/
theorem ofWord_eq_noOperation_iff (word : Word) :
    ofWord .fullByte word = .noOperation ↔
      ∀ operation : Operation, ¬ word.Matches operation.pattern := by
  constructor
  · intro fallback operation fits
    have named := ofWord_of_matches fits
    rw [fallback] at named
    subst named
    exact word.not_matches_noOperation fits
  · intro none
    by_contra known
    exact none _ (matches_ofWord known)

end Operation

/-! ## Operands stand in their places -/

namespace Slot

/-- Whether a slot stands where its operand is cut out of a word. -/
def standsAt (position : Nat) : Slot → Bool
  | .x => position = 1
  | .y => position = 2
  | .n => position = 3
  | .kk => position = 2
  | .addr => position = 1
  | .digit _ => true
  | .ignored => true

/-- Whether consecutive slots stand in their places, from a position on. -/
def inPlace : Nat → List Slot → Bool
  | _, [] => true
  | position, slot :: rest =>
      slot.standsAt position && inPlace (position + slot.fixed.length) rest

theorem agree_append (asked later : List (Option UInt8))
    (nibbles : List UInt8) :
    agree (asked ++ later) nibbles =
      (agree asked (nibbles.take asked.length) &&
        agree later (nibbles.drop asked.length)) := by
  induction asked generalizing nibbles with
  | nil => cases later <;> rfl
  | cons first rest ih =>
      cases nibbles with
      | nil => cases first <;> simp [agree]
      | cons nibble nibbles =>
          cases first with
          | none => exact ih nibbles
          | some fixed => simp [agree, ih, Bool.and_assoc]

theorem length_filled (instruction : Instruction) (slot : Slot) :
    (slot.filled instruction).length = slot.fixed.length := by
  cases slot <;> rfl

/-- A slot in its place is filled with the nibbles that stand there. -/
theorem agree_filled_of_standsAt (dialect : Dialect) (word : Word)
    {slot : Slot} {position : Nat} (stands : slot.standsAt position = true)
    (agrees :
      agree slot.fixed
        ((word.nibbles.drop position).take slot.fixed.length) = true) :
    agree (slot.filled (.decode dialect word))
      ((word.nibbles.drop position).take slot.fixed.length) = true := by
  cases slot with
  | digit nibble => exact agrees
  | ignored => exact agrees
  | x | y | n =>
      cases of_decide_eq_true stands
      simp [agree, filled, fixed, Word.nibbles, Instruction.decode,
        Instruction.ofParts]
  | kk =>
      cases of_decide_eq_true stands
      simp [agree, filled, fixed, Word.nibbles, Instruction.decode,
        Instruction.ofParts, Word.y_eq_kk_div, Word.n_eq_kk_mod]
  | addr =>
      cases of_decide_eq_true stands
      have second : word.toNat % 4096 / 256 = word.toNat / 256 % 16 := by
        omega
      have third : word.toNat % 4096 / 16 % 16 = word.toNat / 16 % 16 := by
        omega
      simp [agree, filled, fixed, Word.nibbles, Instruction.decode,
        Instruction.ofParts, second, third, Word.x, Word.y, Word.n]

theorem agree_filled (dialect : Dialect) (word : Word) {slots : List Slot}
    {position : Nat} (placed : inPlace position slots = true)
    (agrees :
      agree (slots.flatMap fixed) (word.nibbles.drop position) = true) :
    agree (slots.flatMap (filled (.decode dialect word)))
      (word.nibbles.drop position) = true := by
  induction slots generalizing position with
  | nil => exact agrees
  | cons slot rest ih =>
      simp only [inPlace, Bool.and_eq_true] at placed
      simp only [List.flatMap_cons, agree_append, Bool.and_eq_true,
        List.drop_drop, length_filled] at agrees ⊢
      exact ⟨agree_filled_of_standsAt dialect word placed.1 agrees.1,
        ih placed.2 agrees.2⟩

end Slot

/-- The operands of every pattern stand in their places. -/
theorem Operation.inPlace_slots {operation : Operation} {slots : List Slot}
    (read : operation.slots? = some slots) :
    Slot.inPlace 0 slots = true := by
  have all : operation.slots?.all (Slot.inPlace 0) = true := by
    cases operation <;> decide
  rw [read] at all
  exact all

/-- An instruction that is decoded to a matched pattern refills it. -/
theorem Instruction.refillsWord_decode (dialect : Dialect) {word : Word}
    (fits : word.Matches (decode dialect word).operation.pattern) :
    (decode dialect word).refillsWord = true := by
  rw [← Word.fits_iff_matches] at fits
  unfold Word.fits at fits
  unfold refillsWord
  split at fits
  next slots read =>
    exact Slot.agree_filled dialect word (Operation.inPlace_slots read) fits
  next => cases fits

/-! ## The two readings of group zero -/

namespace Operation

theorem ofWord_of_group_eq_zero {word : Word} (group : word.group = 0)
    (rule : ZeroGroup) : ofWord rule word = rule.operation word := by
  simp only [ofWord, group]

/-- Outside of group zero words are read alike. -/
theorem ofWord_of_group_ne_zero {word : Word} (group : word.group ≠ 0)
    (rule other : ZeroGroup) : ofWord rule word = ofWord other word := by
  unfold ofWord
  split
  next zero => exact absurd zero group
  all_goals rfl

theorem isKnown_lowNibble (word : Word) :
    (ZeroGroup.lowNibble.operation word).isKnown = true := by
  simp only [ZeroGroup.operation]
  split <;> rfl

/-- The rules differ on the words of group zero that match no pattern. -/
theorem ofWord_lowNibble_ne_iff (word : Word) :
    ofWord .lowNibble word ≠ ofWord .fullByte word ↔
      word.group = 0 ∧ word ≠ ⟨0x00E0⟩ ∧ word ≠ ⟨0x00EE⟩ := by
  constructor
  · intro differ
    refine ⟨?_, ?_, ?_⟩
    · by_contra group
      exact differ (ofWord_of_group_ne_zero group _ _)
    · rintro rfl
      exact differ rfl
    · rintro rfl
      exact differ rfl
  · rintro ⟨group, notClear, notBack⟩ same
    have known := isKnown_lowNibble word
    rw [ofWord_of_group_eq_zero group, ofWord_of_group_eq_zero group] at same
    rw [same, ZeroGroup.operation, if_neg notClear, if_neg notBack] at known
    exact Bool.noConfusion known

/-- A matched pattern names the operation under either rule. -/
theorem ofWord_of_matches_any {word : Word} {operation : Operation}
    (fits : word.Matches operation.pattern) (rule : ZeroGroup) :
    ofWord rule word = operation := by
  have named := ofWord_of_matches fits
  cases rule with
  | fullByte => exact named
  | lowNibble =>
      rw [← named]
      by_contra differ
      rcases (ofWord_lowNibble_ne_iff word).mp differ with
        ⟨group, notClear, notBack⟩
      rw [ofWord_of_group_eq_zero group, ZeroGroup.operation, if_neg notClear,
        if_neg notBack] at named
      subst named
      exact word.not_matches_noOperation fits

/-! ## Labels -/

/-- The operation with a given label. -/
def ofLabel? (label : String) : Option Operation :=
  all.find? (·.label == label)

theorem ofLabel?_label (operation : Operation) :
    ofLabel? operation.label = some operation := by
  cases operation <;> decide

theorem label_inj {first second : Operation} :
    first.label = second.label ↔ first = second := by
  constructor
  · intro same
    have found := ofLabel?_label first
    rw [same, ofLabel?_label] at found
    exact (Option.some.inj found).symm
  · intro same
    rw [same]

end Operation

/-! ## Decoding words and images -/

namespace Instruction

theorem decode_ne_iff (rule other : ZeroGroup) (word : Word) :
    decode ⟨rule⟩ word ≠ decode ⟨other⟩ word ↔
      Operation.ofWord rule word ≠ Operation.ofWord other word := by
  constructor
  · intro differ same
    apply differ
    rw [decode, decode, same]
  · intro differ same
    exact differ (congrArg Instruction.operation same)

theorem decodeKnown_of_matches {word : Word} {operation : Operation}
    (fits : word.Matches operation.pattern) :
    decodeKnown word = .ok (decode .standard word) := by
  have known : (decode .standard word).isKnown = true := by
    apply Operation.isKnown_iff.mpr
    intro fallback
    exact (Operation.ofWord_eq_noOperation_iff word).mp fallback _ fits
  rw [decodeKnown]
  exact if_pos known

/-- Decoding without the fallback refuses what matches no pattern. -/
theorem decodeKnown_eq_error_iff (word : Word) :
    decodeKnown word = .error ⟨word⟩ ↔
      ∀ operation : Operation, ¬ word.Matches operation.pattern := by
  constructor
  · intro refused operation fits
    rw [decodeKnown_of_matches fits] at refused
    cases refused
  · intro none
    have unknown : (decode .standard word).isKnown = false :=
      Operation.isKnown_eq_false_iff.mpr
        ((Operation.ofWord_eq_noOperation_iff word).mpr none)
    simp only [decodeKnown, unknown]
    rfl

end Instruction

namespace Listing

theorem map_word_ofImage (options : Options) (image : List UInt8) :
    (ofImage options image).entries.map (·.instruction.word) =
      Word.ofImage image := by
  have instructions :=
    congrArg (List.map Instruction.word)
      (map_instruction_entriesFrom options.dialect options.start
        (Word.ofImage image))
  rw [List.map_map, List.map_map] at instructions
  exact instructions.trans (List.map_id _)

/-- What a listing shows of a word is how its dialect decodes the word. -/
theorem instruction_of_mem {options : Options} {image : List UInt8}
    {entry : Entry} (member : entry ∈ (ofImage options image).entries) :
    entry.instruction = .decode options.dialect entry.instruction.word := by
  have shown := List.mem_map_of_mem (f := Entry.instruction) member
  have decoded :
      (ofImage options image).entries.map Entry.instruction =
        (Word.ofImage image).map (.decode options.dialect) :=
    map_instruction_entriesFrom options.dialect options.start _
  rw [decoded] at shown
  rcases List.mem_map.mp shown with ⟨word, -, same⟩
  rw [← same]
  rfl

end Listing

/--
Decoding and the patterns of the operations describe one instruction set.  In
the standard dialect a word is decoded to an operation exactly if it matches
the pattern of that operation; no word matches two patterns, the fallback is
for the words that match none, and these are the words that are refused where
the fallback is not wanted.  The operands of an instruction, put into the
pattern of its operation, give its word back.  Reading group zero by the low
nibble changes exactly the words of this group that match no pattern, and
makes all of them operations.  So every word of a listing has the label of the
one pattern that it matches.
-/
theorem Operation.patterns_describe_decoding :
    (∀ (word : Word) (operation : Operation), operation ≠ .noOperation →
      ((Instruction.decode .standard word).operation = operation ↔
        word.Matches operation.pattern)) ∧
      (∀ (word : Word) (first second : Operation),
        word.Matches first.pattern → word.Matches second.pattern →
          first = second) ∧
      (∀ word : Word,
        (Instruction.decode .standard word).operation = .noOperation ↔
          ∀ operation : Operation, ¬ word.Matches operation.pattern) ∧
      (∀ word : Word,
        Instruction.decodeKnown word = .error ⟨word⟩ ↔
          ∀ operation : Operation, ¬ word.Matches operation.pattern) ∧
      (∀ (word : Word) (operation : Operation),
        word.Matches operation.pattern →
          Instruction.decodeKnown word =
            .ok (Instruction.decode .standard word)) ∧
      (∀ word : Word,
        (Instruction.decode .standard word).isKnown = true →
          (Instruction.decode .standard word).refillsWord = true) ∧
      (∀ word : Word,
        Instruction.decode ⟨.lowNibble⟩ word ≠
            Instruction.decode ⟨.fullByte⟩ word ↔
          word.group = 0 ∧ word ≠ ⟨0x00E0⟩ ∧ word ≠ ⟨0x00EE⟩) ∧
      (∀ word : Word, word.group = 0 →
        (Instruction.decode ⟨.lowNibble⟩ word).isKnown = true) ∧
      ∀ (options : Listing.Options) (image : List UInt8),
        let entries := (Listing.ofImage options image).entries
        entries.map (·.instruction.word) = Word.ofImage image ∧
          (∀ entry ∈ entries, ∀ operation : Operation,
            entry.instruction.word.Matches operation.pattern →
              entry.instruction.label = operation.label) ∧
          (options.dialect = .standard →
            ∀ entry ∈ entries, ∀ operation : Operation,
              operation ≠ .noOperation →
                (entry.instruction.label = operation.label ↔
                  entry.instruction.word.Matches operation.pattern)) := by
  refine ⟨fun word operation known => ofWord_eq_iff_matches known word, ?_,
    ofWord_eq_noOperation_iff, Instruction.decodeKnown_eq_error_iff,
    fun word operation fits => Instruction.decodeKnown_of_matches fits, ?_,
    ?_, ?_, ?_⟩
  · intro word first second fitsFirst fitsSecond
    rw [← ofWord_of_matches fitsFirst, ofWord_of_matches fitsSecond]
  · intro word known
    apply Instruction.refillsWord_decode
    exact matches_ofWord (isKnown_iff.mp known)
  · intro word
    rw [Instruction.decode_ne_iff, ofWord_lowNibble_ne_iff]
  · intro word group
    rw [Instruction.isKnown, Instruction.decode_operation,
      ofWord_of_group_eq_zero group]
    exact isKnown_lowNibble word
  · intro options image entries
    have decoded : ∀ entry ∈ entries,
        entry.instruction.operation =
          ofWord options.dialect.zeroGroup entry.instruction.word :=
      fun entry member =>
        congrArg Instruction.operation (Listing.instruction_of_mem member)
    refine ⟨Listing.map_word_ofImage options image, ?_, ?_⟩
    · intro entry member operation fits
      rw [Instruction.label, decoded entry member,
        ofWord_of_matches_any fits]
    · intro standard entry member operation known
      rw [Instruction.label, label_inj, decoded entry member, standard]
      exact ofWord_eq_iff_matches known _

end Chip8
