import Chip8.Text.Numeral

/-!
# Instruction words

A CHIP-8 instruction is one sixteen-bit word, stored high byte first.  Its
fields are cut out by fixed positions and never depend on the operation:

* `group`, the first nibble, chooses the family of the operation;
* `x` and `y`, the second and third nibble, name registers;
* `n`, the fourth nibble, is a small count or a sub-operation;
* `kk`, the low byte, is an immediate operand;
* `addr`, the low twelve bits, is an address.
-/

namespace Chip8

/-- A word of sixteen bits. -/
structure Word where
  value : UInt16
deriving DecidableEq, Repr, Inhabited

namespace Word

/-- The number of a word. -/
def toNat (word : Word) : Nat :=
  word.value.toNat

/-- The word with a given value, reduced to sixteen bits. -/
def ofNat (value : Nat) : Word :=
  ⟨UInt16.ofNat value⟩

/-- The word whose two bytes stand at consecutive addresses. -/
def ofBytes (high low : UInt8) : Word :=
  ofNat (256 * high.toNat + low.toNat)

/-- The first byte of a word. -/
def highByte (word : Word) : UInt8 :=
  UInt8.ofNat (word.toNat / 256)

/-! ## Fields -/

/-- The first nibble, which chooses the family of the operation. -/
def group (word : Word) : UInt8 :=
  UInt8.ofNat (word.toNat / 4096)

/-- The second nibble, a register. -/
def x (word : Word) : UInt8 :=
  UInt8.ofNat (word.toNat / 256 % 16)

/-- The third nibble, a register. -/
def y (word : Word) : UInt8 :=
  UInt8.ofNat (word.toNat / 16 % 16)

/-- The fourth nibble, a count or a sub-operation. -/
def n (word : Word) : UInt8 :=
  UInt8.ofNat (word.toNat % 16)

/-- The low byte, an immediate operand. -/
def kk (word : Word) : UInt8 :=
  UInt8.ofNat (word.toNat % 256)

/-- The low twelve bits, an address. -/
def addr (word : Word) : UInt16 :=
  UInt16.ofNat (word.toNat % 4096)

/-- The four nibbles, most significant first. -/
def nibbles (word : Word) : List UInt8 :=
  [word.group, word.x, word.y, word.n]

theorem toNat_lt (word : Word) : word.toNat < 65536 :=
  word.value.toNat_lt

@[simp]
theorem toNat_ofNat (value : Nat) : (ofNat value).toNat = value % 65536 := by
  simp [ofNat, toNat]

@[simp]
theorem ofNat_toNat (word : Word) : ofNat word.toNat = word := by
  simp [ofNat, toNat]

theorem toNat_ofBytes (high low : UInt8) :
    (ofBytes high low).toNat = 256 * high.toNat + low.toNat := by
  have := high.toNat_lt
  have := low.toNat_lt
  simp only [ofBytes, toNat_ofNat]
  omega

theorem toNat_group (word : Word) :
    word.group.toNat = word.toNat / 4096 := by
  have := word.toNat_lt
  simp only [group, UInt8.toNat_ofNat']
  omega

@[simp]
theorem toNat_x (word : Word) : word.x.toNat = word.toNat / 256 % 16 := by
  simp only [x, UInt8.toNat_ofNat']
  omega

@[simp]
theorem toNat_y (word : Word) : word.y.toNat = word.toNat / 16 % 16 := by
  simp only [y, UInt8.toNat_ofNat']
  omega

@[simp]
theorem toNat_n (word : Word) : word.n.toNat = word.toNat % 16 := by
  simp only [n, UInt8.toNat_ofNat']
  omega

@[simp]
theorem toNat_kk (word : Word) : word.kk.toNat = word.toNat % 256 := by
  simp [kk]

@[simp]
theorem toNat_addr (word : Word) :
    word.addr.toNat = word.toNat % 4096 := by
  simp only [addr, UInt16.toNat_ofNat']
  omega

/-- The low byte is made of the third and the fourth nibble. -/
theorem kk_eq (word : Word) : word.kk = 16 * word.y + word.n := by
  apply UInt8.toNat_inj.mp
  simp only [toNat_kk, UInt8.toNat_add, UInt8.toNat_mul, toNat_y, toNat_n,
    UInt8.reduceToNat]
  omega

theorem y_eq_kk_div (word : Word) : word.y = word.kk / 16 := by
  apply UInt8.toNat_inj.mp
  simp only [toNat_y, UInt8.toNat_div, toNat_kk, UInt8.reduceToNat]
  omega

theorem n_eq_kk_mod (word : Word) : word.n = word.kk % 16 := by
  apply UInt8.toNat_inj.mp
  simp only [toNat_n, UInt8.toNat_mod, toNat_kk, UInt8.reduceToNat]
  omega

/-- A word is known by its nibbles. -/
theorem eq_of_nibbles_eq {left right : Word}
    (same : left.nibbles = right.nibbles) : left = right := by
  simp only [nibbles, List.cons.injEq, and_true] at same
  rcases same with ⟨group, x, y, n⟩
  have groups := congrArg UInt8.toNat group
  have seconds := congrArg UInt8.toNat x
  have thirds := congrArg UInt8.toNat y
  have fourths := congrArg UInt8.toNat n
  simp only [toNat_group, toNat_x, toNat_y, toNat_n]
    at groups seconds thirds fourths
  have values : left.toNat = right.toNat := by omega
  rw [← left.ofNat_toNat, values, ofNat_toNat]

/-! ## Order -/

/-- Words are ordered by their values. -/
instance : LE Word where
  le left right := left.toNat ≤ right.toNat

instance (left right : Word) : Decidable (left ≤ right) :=
  inferInstanceAs (Decidable (left.toNat ≤ right.toNat))

instance : Max Word :=
  maxOfLe

/-- Words in ascending order. -/
def sorted (words : List Word) : List Word :=
  words.mergeSort

/-- The greatest of some words, if there is one. -/
def greatest? (words : List Word) : Option Word :=
  words.max?

/-! ## Text -/

/-- The standard text of a word: `0x` and four upper-case digits. -/
def text (word : Word) : String :=
  "0x" ++ Numeral.padLeft '0' 4 (Numeral.hexadecimal word.toNat)

/-- The digits of a word in a chosen layout. -/
def hex (layout : Numeral.HexLayout) (word : Word) : String :=
  layout.write word.toNat

end Word

end Chip8
