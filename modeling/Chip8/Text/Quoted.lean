import Chip8.Text.Numeral
import Chip8.Text.Unprintable

/-!
# Quoted texts

A quoted text stands between double quotes.  Quotes, backslashes and the
common controls have escapes of two characters; every other character that is
not shown is written by its code point in lower-case hexadecimal, in braces
after `\u`.
-/

namespace Chip8.Text

/-- The characters that stand for one character inside quotes. -/
def escape (character : Char) : List Char :=
  match character with
  | '"' => ['\\', '"']
  | '\\' => ['\\', '\\']
  | '\n' => ['\\', 'n']
  | '\r' => ['\\', 'r']
  | '\t' => ['\\', 't']
  | '\x00' => ['\\', '0']
  | _ =>
      if isUnprintable character then
        ['\\', 'u', '\x7b'] ++ Nat.toDigits 16 character.toNat ++ ['\x7d']
      else
        [character]

/-- A text in quotes, with the characters escaped that are not shown. -/
def quote (text : String) : String :=
  String.ofList ('"' :: text.toList.flatMap escape ++ ['"'])

end Chip8.Text
