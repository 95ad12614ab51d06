import Chip8.Proofs.Binary64.Reading
import Chip8.Proofs.Speed.Approximation
import Chip8.Proofs.Speed.Expansion
import Chip8.Proofs.Speed.Plain

/-!
# Speeds that survive writing and reading

A speed is written in one of three forms.  Whole numbers and fractions are
read exactly, by `ofText_text_whole` and `ofText_text_fraction`.  A decimal is
the text of the number of the speed; it always has a point, so by
`ofText_text_decimal` it is read as that number, and the speed comes back only
if it survives approximation.
-/

namespace Chip8.Speed

open Binary64

/-! ## Three forms of a speed -/

section

variable {speed : Speed}

theorem ofText_text_whole (whole : speed.denominator = 1) :
    ofText speed.text = .ok speed := by
  have spelled := Numeral.spells_decimal speed.numerator
  have makes : Makes speed.numerator 1 (.ok speed) := by
    refine .speed ⟨speed.numerator_pos, Nat.one_pos⟩ ?_
    rw [value, whole]
  rw [text, if_pos whole, ofText_marked (plain_of_isDigit spelled.digits),
    ofText_digits spelled speed.numerator_le makes]
  rfl

theorem ofText_text_fraction (fraction : speed.denominator ≠ 1)
    (endless : endsInDecimal speed.denominator = false) :
    ofText speed.text = .ok speed := by
  have upper := Numeral.spells_decimal speed.numerator
  have lower := Numeral.spells_decimal speed.denominator
  have characters :
      (Numeral.decimal speed.numerator ++ "/" ++
          Numeral.decimal speed.denominator).toList =
        (Numeral.decimal speed.numerator).toList ++
          '/' :: (Numeral.decimal speed.denominator).toList := by
    simp
  have plain :
      Plain
        (Numeral.decimal speed.numerator ++ "/" ++
          Numeral.decimal speed.denominator).toList := by
    rw [characters]
    exact (plain_of_isDigit upper.digits).around
      (plain_of_isDigit lower.digits) (by decide)
  have makes : Makes speed.numerator speed.denominator (.ok speed) :=
    .speed ⟨speed.numerator_pos, speed.denominator_pos⟩ rfl
  rw [text, if_neg fraction, endless, if_neg Bool.false_ne_true,
    ofText_marked plain,
    ofText_fraction characters upper speed.numerator_le lower
      speed.denominator_le makes]
  rfl

/-- The number of a speed that is not whole has places behind the point. -/
theorem shortest_exponent_neg {code : Nat}
    (fraction : speed.denominator ≠ 1)
    (holds :
      (Interval.ofCode code).Holds (speed.numerator * unitsPerOne)
        speed.denominator)
    (normal : fractionCount ≤ code) :
    (Interval.ofCode code).shortest.exponent < 0 := by
  by_contra places
  have contained :=
    Interval.contains_of_sameValue
      (Decimal.sameValue_whole (Int.le_of_not_gt places))
      (contains_shortest (Nat.zero_lt_of_lt normal))
  rw [Interval.contains_iff] at contained
  have product := mul_eq_of_holds_whole holds normal contained
  apply fraction
  exact speed.coprime.symm.eq_one_of_dvd
    ⟨_, product.symm.trans (Nat.mul_comm _ _)⟩

/-- A decimal is read as the number of the speed. -/
theorem ofText_text_decimal (fraction : speed.denominator ≠ 1)
    (ends : endsInDecimal speed.denominator = true) :
    ofText speed.text = ofBinary64 speed.toBinary64 := by
  rcases exists_code speed with ⟨code, value, holds, normal, finite⟩
  have positive := Nat.zero_lt_of_lt normal
  have read := Binary64.ofText_text positive finite
  rcases positional_point (shortest_exponent_neg fraction holds normal) with
    ⟨whole, places, digits, spelled, -⟩
  rw [← text_ofCode positive finite, ← value] at digits
  rw [← value] at read
  have plain : Plain speed.toBinary64.text.toList := by
    rw [digits]
    exact (plain_of_isDigit spelled.isDigit_left).around
      (plain_of_isDigit spelled.isDigit_right) (by decide)
  rw [text, if_neg fraction, if_pos ends, ofText_marked plain,
    ofText_point digits spelled (ofText?_eq_some_iff.mp read),
    mapError_ofBinary64]

end

/-! ## The round trip -/

theorem endsInDecimal_eq_false_iff (speed : Speed) :
    endsInDecimal speed.denominator = false ↔
      ∃ prime : Nat,
        prime.Prime ∧ prime ∣ speed.denominator ∧
          prime ≠ 2 ∧ prime ≠ 5 := by
  rw [← Bool.not_eq_true, endsInDecimal_iff speed.denominator_pos]
  push Not
  rfl

/--
The text of a speed is read as that speed exactly if the speed is whole, or
its decimal expansion does not end, or it is a whole number of thousandths
that fits.  Otherwise it is read as another speed, or the number of the speed
is out of range.
-/
theorem ofText_text_eq_ok_iff (speed : Speed) :
    (ofText speed.text = .ok speed ↔
      speed.denominator = 1 ∨
        (∃ prime : Nat,
          prime.Prime ∧ prime ∣ speed.denominator ∧
            prime ≠ 2 ∧ prime ≠ 5) ∨
        (speed.denominator ∣ thousand ∧
          speed.numerator * (thousand / speed.denominator) ≤
            greatestCount)) ∧
      (ofText speed.text = .ok speed ∨
        (∃ other, other ≠ speed ∧ ofText speed.text = .ok other) ∨
        ofText speed.text = .error (.outOfRange speed.toBinary64)) := by
  rw [← endsInDecimal_eq_false_iff]
  by_cases whole : speed.denominator = 1
  · have back := ofText_text_whole whole
    exact ⟨iff_of_true back (.inl whole), .inl back⟩
  cases ends : endsInDecimal speed.denominator with
  | false =>
      have back := ofText_text_fraction whole ends
      exact ⟨iff_of_true back (.inr (.inl rfl)), .inl back⟩
  | true =>
      rw [ofText_text_decimal whole ends]
      constructor
      · rw [ofBinary64_toBinary64_eq_ok_iff, or_iff_right whole,
          or_iff_right nofun]
      · rcases ofBinary64_toBinary64_cases speed with ⟨other, made⟩ | error
        · by_cases same : other = speed
          · rw [same] at made
            exact .inl made
          · exact .inr (.inl ⟨other, same, made⟩)
        · exact .inr (.inr error)

end Chip8.Speed
