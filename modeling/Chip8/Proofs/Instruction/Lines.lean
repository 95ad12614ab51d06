import Chip8.Instruction.Text
import Chip8.Proofs.Instruction.Patterns
import Chip8.Proofs.Text.Base

/-!
# Lines can be read back

The line of an instruction is a text without quotes, and its label may have
blanks, signs and letters in it that also stand between the fields.  All the
same a line tells its instruction.  No value has a blank in it, so the last
blank of a line begins its last field; what stands before it ends with the
field before.  When the five operands are taken off, the first blank ends the
word, and all that is left is the label.
-/

namespace Chip8

namespace Text

/-! ## Texts cut at a blank -/

theorem append_blank_inj {first second firstRest secondRest : List Char}
    (firstSolid : ' ' ∉ first) (secondSolid : ' ' ∉ second) :
    first ++ ' ' :: firstRest = second ++ ' ' :: secondRest ↔
      first = second ∧ firstRest = secondRest := by
  constructor
  · intro same
    induction first generalizing second with
    | nil =>
        cases second with
        | nil => exact ⟨rfl, List.tail_eq_of_cons_eq same⟩
        | cons character rest =>
            have blank := List.head_eq_of_cons_eq same
            exact absurd (blank ▸ List.mem_cons_self) secondSolid
    | cons character rest ih =>
        cases second with
        | nil =>
            have blank := List.head_eq_of_cons_eq same
            exact absurd (blank ▸ List.mem_cons_self) firstSolid
        | cons other more =>
            rcases List.cons_eq_cons.mp same with ⟨rfl, later⟩
            rw [List.mem_cons, not_or] at firstSolid secondSolid
            rcases ih firstSolid.2 secondSolid.2 later with ⟨rfl, rests⟩
            exact ⟨rfl, rests⟩
  · rintro ⟨rfl, rfl⟩
    rfl

/-- The same from the end: a text is cut at its last blank. -/
theorem append_last_blank_inj {first second firstEnd secondEnd : List Char}
    (firstSolid : ' ' ∉ firstEnd) (secondSolid : ' ' ∉ secondEnd) :
    first ++ ' ' :: firstEnd = second ++ ' ' :: secondEnd ↔
      first = second ∧ firstEnd = secondEnd := by
  rw [← List.reverse_inj, List.reverse_append, List.reverse_append,
    List.reverse_cons, List.reverse_cons, List.append_assoc,
    List.append_assoc, List.singleton_append, List.singleton_append,
    append_blank_inj (mt List.mem_reverse.mp firstSolid)
      (mt List.mem_reverse.mp secondSolid),
    List.reverse_inj, List.reverse_inj, and_comm]

end Text

namespace Instruction

/-! ## Fields of a line -/

/-- Marks stand before values: a blank, and then a name without any. -/
def IsMark (mark : String) : Prop :=
  mark.toList = ' ' :: mark.toList.tail ∧ ' ' ∉ mark.toList.tail
deriving Decidable

/-- The last field of a text begins at the last blank. -/
theorem append_field_inj {base : Base} {mark : String} (isMark : IsMark mark)
    {first second : String} {firstValue secondValue : Nat} :
    first ++ mark ++ base.write firstValue =
        second ++ mark ++ base.write secondValue ↔
      first = second ∧ firstValue = secondValue := by
  rcases isMark with ⟨begins, solid⟩
  have ends (value : Nat) :
      ' ' ∉ mark.toList.tail ++ (base.write value).toList := by
    rw [List.mem_append, not_or]
    exact ⟨solid, base.blank_not_mem_write value⟩
  have characters (text : String) (value : Nat) :
      (text ++ mark ++ base.write value).toList =
        text.toList ++
          ' ' :: (mark.toList.tail ++ (base.write value).toList) := by
    rw [String.toList_append, String.toList_append, List.append_assoc,
      ← List.cons_append, ← begins]
  rw [← String.toList_inj, characters, characters,
    Text.append_last_blank_inj (ends _) (ends _), List.append_right_inj,
    String.toList_inj, String.toList_inj, Base.write_inj]

/-- The word ends at the first blank; what follows may have more of them. -/
theorem write_append_inj {base : Base} {firstWord secondWord : Nat}
    {first second : String} :
    base.write firstWord ++ " " ++ first =
        base.write secondWord ++ " " ++ second ↔
      firstWord = secondWord ∧ first = second := by
  have characters (value : Nat) (text : String) :
      (base.write value ++ " " ++ text).toList =
        (base.write value).toList ++ ' ' :: text.toList := by
    rw [String.toList_append, String.toList_append, List.append_assoc]
    rfl
  rw [← String.toList_inj, characters, characters,
    Text.append_blank_inj (base.blank_not_mem_write _)
      (base.blank_not_mem_write _),
    String.toList_inj, String.toList_inj, Base.write_inj]

/--
A line is unambiguous.  In either base two instructions have the same line
only if they are the same in their word, their operation and all operands,
whether or not the operands agree with the word.  The fields are read off from
the last to the first, and then the word in front.
-/
theorem line_eq_line_iff (base : Base) (first second : Instruction) :
    first.line base = second.line base ↔ first = second := by
  constructor
  · intro same
    obtain ⟨same, addr⟩ :=
      (append_field_inj (by decide : IsMark " addr=")).mp same
    obtain ⟨same, kk⟩ := (append_field_inj (by decide : IsMark " kk=")).mp same
    obtain ⟨same, n⟩ := (append_field_inj (by decide : IsMark " n=")).mp same
    obtain ⟨same, y⟩ := (append_field_inj (by decide : IsMark " y=")).mp same
    obtain ⟨same, x⟩ := (append_field_inj (by decide : IsMark " x=")).mp same
    obtain ⟨word, label⟩ := write_append_inj.mp same
    have words : first.word = second.word :=
      congrArg Word.mk (UInt16.toNat_inj.mp word)
    cases first
    cases second
    simp only [mk.injEq]
    exact ⟨words, Operation.label_inj.mp label, UInt8.toNat_inj.mp x,
      UInt8.toNat_inj.mp y, UInt8.toNat_inj.mp n, UInt8.toNat_inj.mp kk,
      UInt16.toNat_inj.mp addr⟩
  · intro same
    rw [same]

end Instruction

end Chip8
