import Tabletop.Context
import Tabletop.Expr.Reading
import Tabletop.Table

/-!
# Everything that can be refused

One type for the refusals of the whole library, for callers that mix its parts. Each keeps the
refusal it wraps, and its wording.
-/

namespace Tabletop

/-- A refusal of some part of the library. -/
inductive Failure where
  | reading (error : ReadError)
  | budget (error : OverBudget)
  | weight (error : Table.Overweight)
  | grouping (error : Groups.Uneven)
  deriving DecidableEq

/-- The wording is that of the wrapped refusal. -/
def Failure.message : Failure → String
  | .reading error => error.message
  | .budget error => error.message
  | .weight error => error.message
  | .grouping error => error.message

variable {σ : Type}

/-- Reads dice notation and rolls it once. A text that cannot be read is refused before there is
anything to roll. -/
def rollText (r : Roller σ) (text : String) : Except Failure (RollM σ (Rolled Int64)) :=
  match Expr.read text with
  | .ok e => .ok (e.roll r)
  | .error error => .error (.reading error)

end Tabletop
