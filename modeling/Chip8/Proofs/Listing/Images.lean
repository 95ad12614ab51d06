import Chip8.Proofs.Instruction.Patterns

/-!
# Images behind listings

A listing loses nothing of its image: the words that it shows, written back
high byte first, and the byte left over are the bytes of the image.  What it
shows at a place is told by the two bytes there and by the distance from the
start, counted around the addresses.

Words and addresses are found by walking over the image once.  The walk can be
interrupted after any whole number of words and taken up at the address that
was reached, so listings of joined images are joined listings.
-/

namespace Chip8

/-! ## Words of an image -/

namespace Word

/-- The two bytes of a word as they are stored, high byte first. -/
def bytes (word : Word) : List UInt8 :=
  [word.highByte, word.kk]

@[simp]
theorem bytes_ofBytes (high low : UInt8) :
    (ofBytes high low).bytes = [high, low] := by
  have highBound := high.toNat_lt
  have lowBound := low.toNat_lt
  have first : (ofBytes high low).highByte = high := by
    apply UInt8.toNat_inj.mp
    rw [highByte, UInt8.toNat_ofNat', toNat_ofBytes]
    omega
  have second : (ofBytes high low).kk = low := by
    apply UInt8.toNat_inj.mp
    rw [toNat_kk, toNat_ofBytes]
    omega
  rw [bytes, first, second]

/-- The words of an image and the byte left over make the image. -/
theorem flatMap_bytes_ofImage (image : List UInt8) :
    (ofImage image).flatMap bytes ++ (trailingByte? image).toList = image := by
  fun_induction ofImage image with
  | case1 high low rest ih =>
      rw [List.flatMap_cons, bytes_ofBytes, List.append_assoc, trailingByte?,
        ih]
      rfl
  | case2 image short =>
      rcases image with _ | ⟨high, _ | ⟨low, rest⟩⟩
      · rfl
      · rfl
      · exact (short high low rest rfl).elim

/-- The word at a place is made of the two bytes at twice the place. -/
theorem getElem?_ofImage (image : List UInt8) (index : Nat) :
    (ofImage image)[index]? = (do
      let high ← image[2 * index]?
      let low ← image[2 * index + 1]?
      return .ofBytes high low) := by
  fun_induction ofImage image generalizing index with
  | case1 high low rest ih =>
      cases index with
      | zero => rfl
      | succ index => exact ih index
  | case2 image short =>
      rcases image with _ | ⟨high, _ | ⟨low, rest⟩⟩
      · rfl
      · cases index with
        | zero => rfl
        | succ index => rfl
      · exact (short high low rest rfl).elim

/-- An image of whole words does not change how what follows is cut. -/
theorem ofImage_append {first : List UInt8} (whole : 2 ∣ first.length)
    (second : List UInt8) :
    ofImage (first ++ second) = ofImage first ++ ofImage second := by
  fun_induction ofImage first with
  | case1 high low rest ih =>
      have wholeRest : 2 ∣ rest.length := by
        rw [List.length_cons, List.length_cons] at whole
        omega
      exact congrArg (ofBytes high low :: ·) (ih wholeRest)
  | case2 first short =>
      rcases first with _ | ⟨high, _ | ⟨low, rest⟩⟩
      · rfl
      · exact absurd whole (by simp)
      · exact (short high low rest rfl).elim

end Word

theorem trailingByte?_append {first : List UInt8} (whole : 2 ∣ first.length)
    (second : List UInt8) :
    trailingByte? (first ++ second) = trailingByte? second := by
  fun_induction trailingByte? first with
  | case1 high low rest ih =>
      have wholeRest : 2 ∣ rest.length := by
        rw [List.length_cons, List.length_cons] at whole
        omega
      exact ih wholeRest
  | case2 byte => exact absurd whole (by simp)
  | case3 => rfl

namespace Listing

/-! ## Addresses -/

/-- The address some bytes behind another one, counted around. -/
def addressBehind (start : UInt16) (count : Nat) : UInt16 :=
  .ofNat ((start.toNat + count) % 65536)

theorem toNat_addressBehind (start : UInt16) (count : Nat) :
    (addressBehind start count).toNat = (start.toNat + count) % 65536 := by
  rw [addressBehind, UInt16.toNat_ofNat', Nat.mod_mod]

@[simp]
theorem addressBehind_zero (start : UInt16) :
    addressBehind start 0 = start := by
  have bound := start.toNat_lt
  apply UInt16.toNat_inj.mp
  rw [toNat_addressBehind]
  omega

theorem add_two_eq (start : UInt16) : start + 2 = addressBehind start 2 := by
  apply UInt16.toNat_inj.mp
  rw [toNat_addressBehind, UInt16.toNat_add]
  rfl

theorem addressBehind_addressBehind (start : UInt16) (first second : Nat) :
    addressBehind (addressBehind start first) second =
      addressBehind start (first + second) := by
  apply UInt16.toNat_inj.mp
  simp only [toNat_addressBehind]
  omega

/-! ## Entries -/

/-- The entry at a place has the word there, and twice the place as distance. -/
theorem getElem?_entriesFrom (dialect : Dialect) (start : UInt16)
    (words : List Word) (index : Nat) :
    (entriesFrom dialect start words)[index]? =
      words[index]?.map fun word =>
        ⟨addressBehind start (2 * index), .decode dialect word⟩ := by
  induction words generalizing start index with
  | nil => rfl
  | cons word rest ih =>
      cases index with
      | zero =>
          rw [Nat.mul_zero, addressBehind_zero]
          rfl
      | succ index =>
          have later := ih (start + 2) index
          rw [add_two_eq, addressBehind_addressBehind,
            Nat.add_comm 2 (2 * index), ← Nat.mul_succ] at later
          rw [entriesFrom, List.getElem?_cons_succ, List.getElem?_cons_succ,
            add_two_eq]
          exact later

/-- The walk goes on where it was interrupted. -/
theorem entriesFrom_append (dialect : Dialect) (start : UInt16)
    (first second : List Word) :
    entriesFrom dialect start (first ++ second) =
      entriesFrom dialect start first ++
        entriesFrom dialect (addressBehind start (2 * first.length))
          second := by
  induction first generalizing start with
  | nil =>
      rw [List.length_nil, Nat.mul_zero, addressBehind_zero]
      rfl
  | cons word rest ih =>
      rw [List.cons_append, entriesFrom, ih, add_two_eq,
        addressBehind_addressBehind, List.length_cons, Nat.mul_succ,
        Nat.add_comm 2]
      rw [entriesFrom, add_two_eq]
      rfl

/-! ## Whole listings -/

/-- The image that a listing shows: its words and the byte left over. -/
def image (listing : Listing) : List UInt8 :=
  listing.entries.flatMap (·.instruction.word.bytes) ++
    listing.trailing.toList

theorem image_ofImage (options : Options) (bytes : List UInt8) :
    (ofImage options bytes).image = bytes := by
  have words :
      (ofImage options bytes).entries.flatMap (·.instruction.word.bytes) =
        (Word.ofImage bytes).flatMap Word.bytes := by
    rw [← map_word_ofImage options bytes, List.flatMap_map]
  rw [image, words]
  exact Word.flatMap_bytes_ofImage bytes

theorem ofImage_append (start : UInt16) (dialect : Dialect)
    {first : List UInt8} (whole : 2 ∣ first.length)
    (second : List UInt8) :
    let head := ofImage ⟨start, dialect⟩ first
    let tail := ofImage ⟨addressBehind start first.length, dialect⟩ second
    ofImage ⟨start, dialect⟩ (first ++ second) =
      ⟨head.entries ++ tail.entries, tail.trailing⟩ := by
  intro head tail
  have length : 2 * (Word.ofImage first).length = first.length := by
    rw [Word.length_ofImage, Nat.mul_div_cancel' whole]
  have entries := entriesFrom_append dialect start (Word.ofImage first)
    (Word.ofImage second)
  rw [length, ← Word.ofImage_append whole] at entries
  rw [ofImage, entries, trailingByte?_append whole]
  rfl

/--
Listings are lossless, exact in their places and compositional.  Whatever the
start and the dialect, the words of a listing and the byte left over are the
bytes of the image.  The entry at a place is there exactly if the image has
both bytes at twice the place; it decodes the word of these bytes, and its
address lies twice the place behind the start, counted around.  An image of
even length joined with another one is listed as the first one, and then as
the other one from behind the first, whose byte left over is the one of the
whole.
-/
theorem lossless_and_compositional (start : UInt16) (dialect : Dialect) :
    (∀ bytes : List UInt8,
      (ofImage ⟨start, dialect⟩ bytes).image = bytes ∧
        ∀ index : Nat,
          (ofImage ⟨start, dialect⟩ bytes).entries[index]? = (do
            let high ← bytes[2 * index]?
            let low ← bytes[2 * index + 1]?
            return ⟨addressBehind start (2 * index),
              .decode dialect (.ofBytes high low)⟩)) ∧
      ∀ first second : List UInt8, 2 ∣ first.length →
        let head := ofImage ⟨start, dialect⟩ first
        let tail := ofImage ⟨addressBehind start first.length, dialect⟩ second
        ofImage ⟨start, dialect⟩ (first ++ second) =
          ⟨head.entries ++ tail.entries, tail.trailing⟩ := by
  refine ⟨fun bytes => ⟨image_ofImage _ bytes, ?_⟩,
    fun first second whole => ofImage_append start dialect whole second⟩
  intro index
  have entry :=
    getElem?_entriesFrom dialect start (Word.ofImage bytes) index
  rw [Word.getElem?_ofImage] at entry
  rw [ofImage, entry]
  cases bytes[2 * index]? with
  | none => rfl
  | some high =>
      cases bytes[2 * index + 1]? with
      | none => rfl
      | some low => rfl

/-- Two words and a byte left over; the second word stands behind the end. -/
theorem lossless_and_compositional_around :
    let first : List UInt8 := [0x00, 0xE0]
    let second : List UInt8 := [0xA2, 0x2A, 0xFF]
    2 ∣ first.length ∧
      (ofImage ⟨0xFFFE, .standard⟩ (first ++ second)).image =
        [0x00, 0xE0, 0xA2, 0x2A, 0xFF] ∧
      ofImage ⟨0xFFFE, .standard⟩ (first ++ second) =
        ⟨[⟨0xFFFE, .decode .standard ⟨0x00E0⟩⟩,
          ⟨0x0000, .decode .standard ⟨0xA22A⟩⟩], some 0xFF⟩ := by
  intro first second
  have whole : 2 ∣ first.length := by decide
  have listings := lossless_and_compositional 0xFFFE .standard
  exact ⟨whole, (listings.1 _).1,
    (listings.2 first second whole).trans (by decide +kernel)⟩

end Listing

end Chip8
