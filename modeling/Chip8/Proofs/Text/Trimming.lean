import Chip8.Text.Blank
import Mathlib.Data.List.DropRight

/-!
# Trimmed texts

A text is trimmed to its longest part that neither begins nor ends with a
blank.  `trim_eq_iff` says that there is only one such part and that trimming
finds it, so a text may be trimmed with any blanks around it.
-/

namespace Chip8.Text

/-- Whether a text consists of blanks. -/
def AllBlank (text : List Char) : Prop :=
  ∀ character ∈ text, isBlank character = true

/-- What a text is without the blanks around it. -/
structure Trims (text inner : List Char) : Prop where
  around :
    ∃ before after,
      AllBlank before ∧ AllBlank after ∧ text = before ++ inner ++ after
  first_solid : ∀ first ∈ inner.head?, isBlank first = false
  last_solid : ∀ last ∈ inner.getLast?, isBlank last = false

/-! ## Blanks around a text -/

theorem trimEnd_append_right (text : List Char) {blanks : List Char}
    (allBlank : AllBlank blanks) :
    trimEnd (text ++ blanks) = trimEnd text := by
  have reversed :
      ∀ character ∈ blanks.reverse, isBlank character = true :=
    fun character member => allBlank character (List.mem_reverse.mp member)
  rw [trimEnd, List.reverse_append, List.dropWhile_append_of_pos reversed]
  rfl

/-- Blanks behind do not change the trimmed text. -/
theorem trim_append_right (text : List Char) {blanks : List Char}
    (allBlank : AllBlank blanks) : trim (text ++ blanks) = trim text := by
  have nothing : blanks.dropWhile isBlank = [] :=
    List.dropWhile_eq_nil_iff.mpr allBlank
  rw [trim, trim, trimStart, trimStart, List.dropWhile_append, nothing]
  split
  next empty => rw [List.isEmpty_iff.mp empty]
  next => exact trimEnd_append_right _ allBlank

/-- A last character that is no blank stays behind the trimmed start. -/
theorem trim_concat (text : List Char) {last : Char}
    (solid : isBlank last = false) :
    trim (text ++ [last]) = trimStart text ++ [last] := by
  have start : trimStart (text ++ [last]) = trimStart text ++ [last] := by
    rw [trimStart, List.dropWhile_append, List.dropWhile_cons, solid]
    split
    next empty =>
      rw [trimStart, List.isEmpty_iff.mp empty]
      rfl
    next => rfl
  rw [trim, start, trimEnd, List.reverse_concat, List.dropWhile_cons, solid,
    if_neg Bool.false_ne_true, List.reverse_cons, List.reverse_reverse]

theorem trim_trimStart (text : List Char) :
    trim (trimStart text) = trim text := by
  rw [trim, trimStart, trimStart, List.dropWhile_idempotent]
  rfl

/-! ## Texts that are trimmed already -/

theorem dropWhile_of_first_solid {text : List Char}
    (solid : ∀ first ∈ text.head?, isBlank first = false) :
    text.dropWhile isBlank = text := by
  cases text with
  | nil => rfl
  | cons first rest =>
      rw [List.dropWhile_cons, solid first rfl]
      rfl

theorem trim_of_solid {inner : List Char}
    (first_solid : ∀ first ∈ inner.head?, isBlank first = false)
    (last_solid : ∀ last ∈ inner.getLast?, isBlank last = false) :
    trim inner = inner := by
  rw [← List.head?_reverse] at last_solid
  rw [trim, trimStart, dropWhile_of_first_solid first_solid, trimEnd,
    dropWhile_of_first_solid last_solid, List.reverse_reverse]

/-! ## The trimmed text -/

theorem first_solid_dropWhile (text : List Char) :
    ∀ first ∈ (text.dropWhile isBlank).head?, isBlank first = false := by
  intro first member
  have solid := List.head?_dropWhile_not isBlank text
  rw [Option.mem_def.mp member] at solid
  exact solid

theorem trims_trim (text : List Char) : Trims text (trim text) where
  around := by
    refine ⟨text.takeWhile isBlank, (trimStart text).rtakeWhile isBlank,
      fun _ => List.mem_takeWhile_imp, fun _ => List.mem_rtakeWhile_imp, ?_⟩
    have inside :
        trim text ++ (trimStart text).rtakeWhile isBlank = trimStart text :=
      List.rdropWhile_append_rtakeWhile
    rw [List.append_assoc, inside]
    exact List.takeWhile_append_dropWhile.symm
  first_solid first member := by
    have start : trim text <+: trimStart text := List.rdropWhile_prefix _ _
    apply first_solid_dropWhile text
    rcases start with ⟨after, whole⟩
    rw [← trimStart, ← whole, List.head?_append, Option.mem_def.mp member]
    rfl
  last_solid last member := by
    rw [trim, trimEnd, List.getLast?_reverse] at member
    exact first_solid_dropWhile _ last member

/-- A text has one trimmed part. -/
theorem trim_eq_iff {text inner : List Char} :
    trim text = inner ↔ Trims text inner := by
  constructor
  · rintro rfl
    exact trims_trim text
  · rintro ⟨⟨before, after, blankBefore, blankAfter, rfl⟩, first, last⟩
    rw [List.append_assoc, trim_append_left _ _ blankBefore,
      trim_append_right _ blankAfter, trim_of_solid first last]

end Chip8.Text
