import Tabletop.Checked
import Tabletop.Text.Quoted

/-!
# Signs

What stands in front of a term: a plus, which keeps its value, or a minus, which takes the opposite.
Applying a minus is the one place where a single number can overflow, since the lowest one has no
opposite.
-/

namespace Tabletop

/-- A plus or a minus. -/
inductive Sign where
  | plus
  | minus
  deriving DecidableEq

namespace Sign

/-- The character that writes a sign. -/
def glyph : Sign → Char
  | plus => '+'
  | minus => '-'

/-- The sign that a character writes, if any. -/
def ofChar? : Char → Option Sign
  | '+' => some plus
  | '-' => some minus
  | _ => none

/-- The other sign. -/
def inverted : Sign → Sign
  | plus => minus
  | minus => plus

/-- A value under a sign. -/
def apply : Sign → Int64 → Except Halt Int64
  | plus, value => .ok value
  | minus, value => Checked.neg value

/-- A text that was expected to be a sign and is not. -/
structure NotASign where
  text : String
  deriving DecidableEq

/-- The wording of the complaint. -/
def NotASign.message (e : NotASign) : String := Text.quoted e.text ++ " is not a sign"

/-- The sign that a whole text writes. -/
def read (text : String) : Except NotASign Sign :=
  match text.toList with
  | [c] => (ofChar? c).elim (.error ⟨text⟩) .ok
  | _ => .error ⟨text⟩

/-- A character writes a sign exactly when it is the glyph of that sign. -/
theorem ofChar?_eq_some_iff {c : Char} {s : Sign} : ofChar? c = some s ↔ c = s.glyph := by
  unfold ofChar?
  split <;> cases s <;> simp_all [glyph]

@[simp] theorem ofChar?_glyph (s : Sign) : ofChar? s.glyph = some s :=
  ofChar?_eq_some_iff.2 rfl

@[simp] theorem inverted_inverted (s : Sign) : s.inverted.inverted = s := by cases s <;> rfl

end Sign

end Tabletop
