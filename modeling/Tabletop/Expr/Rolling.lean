import Tabletop.Expr.Basic
import Tabletop.Roller
import Tabletop.Rolled

/-!
# Rolling expressions

The terms of an expression are rolled from left to right, and each is rolled to its end, sign
included, before it is added to the sum of those before it. A roll that stops at an addition has
therefore drawn the dice of the term it was about to add, and those of no later one.
-/

namespace Tabletop

variable {σ : Type}

/-- The value of one throw. Dice without faces are worth nothing and not drawn. -/
def Dice.resolve (r : Roller σ) (d : Dice) : RollM σ Int64 :=
  if d.faces = 0 then pure 0 else r.rollSum d.repetitions d.faces

/-- The value of a term. -/
def Term.resolve (r : Roller σ) : Term → RollM σ Int64
  | .constant value => pure value
  | .dice d => d.resolve r

/-- The value of a term under its sign. -/
def SignedTerm.resolve (r : Roller σ) (t : SignedTerm) : RollM σ Int64 := do
  let value ← t.term.resolve r
  RollM.ofExcept (t.sign.apply value)

/-- Adds the value of one more term to a sum. -/
def Expr.addTerm (r : Roller σ) (total : Int64) (t : SignedTerm) : RollM σ Int64 := do
  let value ← t.resolve r
  RollM.ofExcept (Checked.add total value)

/-- The sum of the terms. -/
def Expr.total (r : Roller σ) (e : Expr) : RollM σ Int64 :=
  e.terms.foldlM (addTerm r) 0

/-- One roll of an expression, logged under its description. -/
def Expr.roll (r : Roller σ) (e : Expr) : RollM σ (Rolled Int64) := do
  let total ← e.total r
  return ⟨total, e.description⟩

/-- One throw, logged under its written form. -/
def Dice.roll (r : Roller σ) (d : Dice) : RollM σ (Rolled Int64) := do
  let total ← d.resolve r
  return ⟨total, String.ofList d.text⟩

/-- A rolled sum as it is shown. -/
def Rolled.shown (r : Rolled Int64) : String :=
  r.display fun total => String.ofList (Numeral.ofInt64 total)

end Tabletop
