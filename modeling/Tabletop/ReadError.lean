import Tabletop.Text.Quoted

/-!
# What can be wrong with dice notation

Notation is a row of pairs, a sign and a term each. Three things can be wrong with a row of tokens,
and each complaint names the tokens it is about: one that is neither here nor there, one that stands
behind another it cannot follow, and one that the row cannot end with.
-/

namespace Tabletop

/-- Why a text is not dice notation. -/
inductive ReadError where
  /-- A token that cannot be read as what its place asks for. -/
  | notValid (token : String)
  /-- A sign where a term was due. -/
  | cannotFollow (earlier later : String)
  /-- A last token that lacks its partner. -/
  | cannotEnd (token : String)
  deriving DecidableEq

namespace ReadError

/-- The tokens that a complaint is about, in the order of the text. -/
def tokens : ReadError → List String
  | notValid token => [token]
  | cannotFollow earlier later => [earlier, later]
  | cannotEnd token => [token]

/-- The wording of a complaint. -/
def message : ReadError → String
  | notValid token => Text.quoted token ++ " is not a valid token"
  | cannotFollow earlier later => Text.quoted later ++ " cannot follow " ++ Text.quoted earlier
  | cannotEnd token => "an expression cannot end with " ++ Text.quoted token

end ReadError

end Tabletop
