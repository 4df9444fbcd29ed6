import Tabletop.Context
import Tabletop.Expr.Reading

/-!
# The journal of events

Reading and evaluating can be followed from outside. A reading leaves the tokens it was cut into,
and the complaint if there is one; an evaluation leaves its result, or its refusal. A roll that
stops half-way leaves nothing. Events follow from the text and from the outcome alone, so whoever
does not ask for them pays nothing.
-/

namespace Tabletop

/-- Something worth telling about a reading or an evaluation. -/
inductive Event where
  /-- A text was cut into tokens. -/
  | tokenized (input : String) (tokens : List String)
  /-- A text could not be read. -/
  | unreadable (input : String) (error : ReadError)
  /-- An evaluation was refused. -/
  | overBudget (refusal : OverBudget)
  /-- An expression was rolled. -/
  | rolled (expression : String) (total : Int64)
  deriving DecidableEq

/-- How closely one has to follow to see an event. -/
inductive Event.Level where
  | trace
  | debug
  deriving DecidableEq

namespace Event

/-- Tokens are told only to the closest follower. -/
def level : Event → Level
  | tokenized .. => .trace
  | unreadable .. | overBudget .. | rolled .. => .debug

/-- What kind of thing happened, in words. -/
def message : Event → String
  | tokenized .. => "tokenized"
  | unreadable .. => "failed to parse dice expression"
  | overBudget .. => "roll budget exceeded"
  | rolled .. => "rolled"

/-- The particulars of an event, each under its name. -/
def fields : Event → List (String × String)
  | tokenized input tokens =>
    [("input", input), ("tokens", "[" ++ ", ".intercalate (tokens.map Text.quoted) ++ "]")]
  | unreadable input error => [("input", input), ("error", error.message)]
  | overBudget refusal =>
    [("requested", Numeral.decimal refusal.requested), ("max", Numeral.decimal refusal.allowed)]
  | rolled expression total =>
    [("expression", expression), ("total", String.ofList (Numeral.ofInt64 total))]

/-- What the reading of a text leaves. -/
def ofReading (text : String) : List Event :=
  tokenized text ((Token.ofText text.toList).map Token.name) ::
    match Expr.read text with
    | .ok _ => []
    | .error error => [unreadable text error]

/-- What the outcome of an evaluation leaves. -/
def ofEval {σ : Type} : EStateM.Result Stop (Context σ) (Rolled Int64) → List Event
  | .ok result _ => [rolled result.log result.result]
  | .error (.overBudget refusal) _ => [overBudget refusal]
  | .error (.halted _) _ => []

end Event

end Tabletop
