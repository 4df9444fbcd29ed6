import Tabletop.Expr.Basic
import Tabletop.Groups
import Tabletop.ReadError
import Tabletop.Token

/-!
# Reading dice notation

A text is cut into tokens, a plus is put in front when the first token is no sign, and the tokens
are taken in pairs of a sign and a term. That the tokens pair up is checked before any pair is
looked at, so a dangling last token is reported whatever else is wrong; of several faulty pairs the
first one is reported, and in a pair the sign comes before the term.
-/

namespace Tabletop

namespace Token

/-- The characters of a token, as part of a complaint. -/
def name (t : Token) : String := String.ofList t.text

end Token

namespace SignedTerm

/-- Reads a sign and a term. -/
def ofPair (pair : Vector Token 2) : Except ReadError SignedTerm :=
  match pair[0], pair[1] with
  | .word cs, _ => .error (.notValid (Token.word cs).name)
  | .sign s, .sign t => .error (.cannotFollow (Token.sign s).name (Token.sign t).name)
  | .sign s, .word cs =>
    match Term.read cs with
    | .ok term => .ok ⟨s, term⟩
    | .error _ => .error (.notValid (Token.word cs).name)

end SignedTerm

namespace Expr

/-- Puts a plus in front of tokens that start with a word. -/
def signedFront : List Token → List Token
  | .word cs :: rest => .sign .plus :: .word cs :: rest
  | tokens => tokens

/-- Reads tokens that already start with a sign, if there are any. -/
def ofPairs (tokens : List Token) : Except ReadError Expr :=
  match Groups.exact 2 tokens with
  | .ok pairs => (pairs.mapM SignedTerm.ofPair).map Expr.mk
  -- a row that cannot be paired is not empty, so there is a last token to name
  | .error _ => .error (.cannotEnd (tokens.getLast?.elim "" Token.name))

/-- Reads dice notation, given as its tokens. -/
def ofTokens (tokens : List Token) : Except ReadError Expr := ofPairs (signedFront tokens)

/-- Reads dice notation. -/
def read (text : String) : Except ReadError Expr := ofTokens (Token.ofText text.toList)

end Expr

end Tabletop
