import Tabletop.Text.CodeRange

/-!
# White space

The property White_Space: the characters that a line may consist of and still count as empty.
It is wider than the two blanks that dice notation ignores (`Token.isFiller`), which is why a line
of no-break spaces is empty for the prompt and yet not a readable expression.
-/

namespace Tabletop.Text

/-- The characters with the property White_Space. -/
def whiteSpace : CharClass :=
  [
   ⟨0x9, 0xd⟩, ⟨0x20, 0x20⟩, ⟨0x85, 0x85⟩, ⟨0xa0, 0xa0⟩, ⟨0x1680, 0x1680⟩, ⟨0x2000, 0x200a⟩,
   ⟨0x2028, 0x2029⟩, ⟨0x202f, 0x202f⟩, ⟨0x205f, 0x205f⟩, ⟨0x3000, 0x3000⟩]

/-- A text is blank when it holds white space only. -/
def isBlank (text : List Char) : Bool := text.all whiteSpace.has

end Tabletop.Text
