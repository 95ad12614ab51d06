import Chip8.Binary64.Decimal
import Chip8.Binary64.Shortest
import Chip8.Text.Quoted

/-!
# Data

Public values travel as data: trees of scalars, lists, and maps from text keys
to data.  The entries of a map stand in ascending order of their keys, no key
twice; `ofEntries` brings any entries into this form.
-/

namespace Chip8

/-- A tree of scalars, lists and maps. -/
inductive Datum where
  | null
  | bool (value : Bool)
  | int (value : Int)
  | real (value : Binary64)
  | text (value : String)
  | list (items : List Datum)
  | map (entries : List (String × Datum))
deriving Inhabited

namespace Datum

/-- A natural number as a datum. -/
def nat (value : Nat) : Datum :=
  .int value

/--
The number `coefficient / 10 ^ places`.  An integer of sixty-four bits, with a
sign or without, stays an integer; any other number is rounded to a real.
-/
def number (coefficient : Int) (places : Nat) : Datum :=
  if places = 0 ∧ -9223372036854775808 ≤ coefficient ∧
      coefficient < 18446744073709551616 then
    .int coefficient
  else
    .real (Binary64.withSign (coefficient < 0)
      (.ofDecimal coefficient.natAbs (-(places : Int))))

/-! ## Maps -/

/-- Put an entry into ascending entries; an equal key is replaced. -/
def putEntry (key : String) (value : Datum) :
    List (String × Datum) → List (String × Datum)
  | [] => [(key, value)]
  | (otherKey, otherValue) :: rest =>
      if key < otherKey then
        (key, value) :: (otherKey, otherValue) :: rest
      else if key = otherKey then
        (key, value) :: rest
      else
        (otherKey, otherValue) :: putEntry key value rest

/-- The map with the given entries; of equal keys the last one counts. -/
def ofEntries (entries : List (String × Datum)) : Datum :=
  .map (entries.foldl (fun sorted entry => putEntry entry.1 entry.2 sorted) [])

/-! ## Kinds -/

/-- What a datum is, without the contents of lists and maps. -/
inductive Kind where
  | null
  | bool (value : Bool)
  | int (value : Int)
  | real (value : Binary64)
  | text (value : String)
  | list
  | map
deriving DecidableEq, Repr

/-- The kind of a datum, with the scalar that an error shows. -/
def kind : Datum → Kind
  | .null => .null
  | .bool value => .bool value
  | .int value => .int value
  | .real value => .real value
  | .text value => .text value
  | .list _ => .list
  | .map _ => .map

/-- An integer in decimal digits. -/
def integerText (value : Int) : String :=
  if value < 0 then
    "-" ++ Numeral.decimal value.natAbs
  else
    Numeral.decimal value.natAbs

/-- A real number that is whole keeps a zero behind the point. -/
def realText (value : Binary64) : String :=
  if value.text.toList.contains '.' then
    value.text
  else
    value.text ++ ".0"

/-- A kind in the words of an error text. -/
def Kind.describe : Kind → String
  | .null => "null"
  | .bool true => "boolean `true`"
  | .bool false => "boolean `false`"
  | .int value => "integer `" ++ integerText value ++ "`"
  | .real value => "floating point `" ++ realText value ++ "`"
  | .text value => "string " ++ Text.quote value
  | .list => "sequence"
  | .map => "map"

end Datum

end Chip8
