import Tabletop.Term

/-!
# Expressions

An expression is a list of signed terms, and stands for their sum. It is a plain value: adding or
subtracting two expressions joins their lists, the second one inverted term by term, and draws no
dice.

The written form of an expression, its *description*, strings the signed terms together and leaves
out one leading plus. It is the log of every roll.
-/

namespace Tabletop

/-- A sum of signed terms. -/
structure Expr where
  terms : List SignedTerm
  deriving DecidableEq

namespace Expr

/-- The sum without terms. -/
def empty : Expr := ⟨[]⟩

/-- The sum of one signed term. -/
def ofSigned (t : SignedTerm) : Expr := ⟨[t]⟩

/-- The sum of one term, added. -/
def ofTerm (t : Term) : Expr := ofSigned (.plus t)

/-- The sum of one throw. -/
def ofDice (d : Dice) : Expr := ofTerm (.dice d)

/-- How many terms there are. -/
def length (e : Expr) : Nat := e.terms.length

/-- Whether there are no terms. -/
def isEmpty (e : Expr) : Bool := e.terms.isEmpty

/-- How many single dice one roll takes. The count is exact, whatever its size. A term takes fewer than
`2 ^ 32` dice, so a counter of 64 bits agrees with it on fewer than `2 ^ 32` terms, and with more of
them only as long as the sum fits. -/
def draws (e : Expr) : Nat :=
  -- the sum of no counts is the number `0`, whatever algebra is imported besides
  @List.sum Nat _ Zero.ofOfNat0 (e.terms.map SignedTerm.draws)

/-- Whether a roll takes no dice at all, and so gives the same result every time. -/
def isConstant (e : Expr) : Bool := e.draws == 0

/-- Every term under the other sign. -/
def inverted (e : Expr) : Expr := ⟨e.terms.map SignedTerm.inverted⟩

/-- The terms of the first expression, then those of the second. -/
def add (a b : Expr) : Expr := ⟨a.terms ++ b.terms⟩

/-- The terms of the first expression, then those of the second under the other sign. -/
def sub (a b : Expr) : Expr := a.add b.inverted

instance : Add Expr := ⟨add⟩
instance : Sub Expr := ⟨sub⟩
instance : Neg Expr := ⟨inverted⟩

/-- A text without its first character, if that is a plus. -/
def dropPlus : List Char → List Char
  | '+' :: rest => rest
  | text => text

/-- The written form. -/
def text (e : Expr) : List Char := dropPlus (e.terms.flatMap SignedTerm.text)

/-- The written form, as a string. -/
def description (e : Expr) : String := String.ofList e.text

@[simp] theorem terms_add (a b : Expr) : (a + b).terms = a.terms ++ b.terms := rfl

@[simp] theorem terms_sub (a b : Expr) :
    (a - b).terms = a.terms ++ b.terms.map SignedTerm.inverted := rfl

@[simp] theorem terms_neg (a : Expr) : (-a).terms = a.terms.map SignedTerm.inverted := rfl

@[simp] theorem draws_add (a b : Expr) : (a + b).draws = a.draws + b.draws := by
  unfold draws
  rw [terms_add, List.map_append, List.sum_append_nat]

@[simp] theorem draws_neg (a : Expr) : (-a).draws = a.draws := by
  simp [draws, Function.comp_def]

@[simp] theorem draws_sub (a b : Expr) : (a - b).draws = a.draws + b.draws := by
  show (a + -b).draws = _
  rw [draws_add, draws_neg]

end Expr

namespace Dice

/-- The throw as an expression. -/
def expr (d : Dice) : Expr := .ofDice d

end Dice

end Tabletop
