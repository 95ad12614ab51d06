import Chip8.Instruction.Text

/-!
# Listings of memory images

A memory image is a list of bytes.  Its words are the pairs of consecutive
bytes, high byte first; a byte left over at the end belongs to no word.  A
listing gives every word its address and its instruction.  Addresses have
sixteen bits and wrap around.
-/

namespace Chip8

/-! ## Words of an image -/

/-- The words of an image; a last single byte is left out. -/
def Word.ofImage : List UInt8 → List Word
  | high :: low :: rest => .ofBytes high low :: ofImage rest
  | _ => []

/-- The last byte of an image of odd length. -/
def trailingByte? : List UInt8 → Option UInt8
  | _ :: _ :: rest => trailingByte? rest
  | [byte] => some byte
  | [] => none

@[simp]
theorem Word.length_ofImage (image : List UInt8) :
    (Word.ofImage image).length = image.length / 2 := by
  fun_induction Word.ofImage image with
  | case1 high low rest ih => simp only [List.length_cons, ih]; omega
  | case2 image short =>
      rcases image with _ | ⟨high, _ | ⟨low, rest⟩⟩
      · simp
      · simp
      · exact (short high low rest rfl).elim

/-! ## Listings -/

/-- Address at which programs are loaded. -/
def loadAddress : UInt16 :=
  0x200

/-- An instruction and the address at which it stands. -/
structure Listing.Entry where
  address : UInt16
  instruction : Instruction
deriving DecidableEq, Repr

/-- The instructions of an image and the byte left over, if any. -/
structure Listing where
  entries : List Listing.Entry
  trailing : Option UInt8
deriving DecidableEq, Repr

/-- Where a listing starts, and how its words are decoded. -/
structure Listing.Options where
  start : UInt16 := loadAddress
  dialect : Dialect := .standard
deriving DecidableEq, Repr

namespace Listing

/-- Decode words at consecutive even distances from an address. -/
def entriesFrom (dialect : Dialect) : UInt16 → List Word → List Entry
  | _, [] => []
  | address, word :: rest =>
      ⟨address, .decode dialect word⟩ ::
        entriesFrom dialect (address + 2) rest

/-- List the words of an image, and the last byte if it is left over. -/
def ofImage (options : Options) (image : List UInt8) : Listing where
  entries := entriesFrom options.dialect options.start (Word.ofImage image)
  trailing := trailingByte? image

@[simp]
theorem length_entriesFrom (dialect : Dialect) (address : UInt16)
    (words : List Word) :
    (entriesFrom dialect address words).length = words.length := by
  induction words generalizing address with
  | nil => rfl
  | cons word rest ih => simp [entriesFrom, ih]

/-- The addresses of a listing do not bear on its instructions. -/
theorem map_instruction_entriesFrom (dialect : Dialect) (address : UInt16)
    (words : List Word) :
    (entriesFrom dialect address words).map Entry.instruction =
      words.map (.decode dialect) := by
  induction words generalizing address with
  | nil => rfl
  | cons word rest ih => simp [entriesFrom, ih]

end Listing

end Chip8
