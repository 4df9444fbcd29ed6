import Tabletop.Text.Extending
import Tabletop.Text.Unprintable

/-!
# Quoted text

A text inside a message stands between double quotes, and is written so that the reader can tell
every character: the quote, the backslash and the four common controls have short escapes, a
character that has no shape of its own is given by its number, and all others stand for themselves.
The quote and the backslash never stand for themselves, so the closing quote can always be told from
one that belongs to the text.
-/

namespace Tabletop.Text

/-- A character by its number, in lower-case hexadecimal without padding. -/
def numbered (c : Char) : List Char :=
  ['\\', 'u', '\x7b'] ++ Nat.toDigits 16 c.toNat ++ ['\x7d']

/-- A character has a shape of its own when it is neither drawn onto its neighbour nor invisible. -/
def isVisible (c : Char) : Bool :=
  if c.toNat < 0x7f then 0x20 ≤ c.toNat else !extending.has c && !unprintable.has c

/-- How a character is written inside quotes. -/
def escaped : Char → List Char
  | '\x00' => ['\\', '0']
  | '\t' => ['\\', 't']
  | '\r' => ['\\', 'r']
  | '\n' => ['\\', 'n']
  | '\"' => ['\\', '\"']
  | '\\' => ['\\', '\\']
  | c => if isVisible c then [c] else numbered c

/-- A text between quotes, every character escaped where it has to be. -/
def quoted (text : String) : String :=
  String.ofList ('\"' :: text.toList.flatMap escaped ++ ['\"'])

end Tabletop.Text
