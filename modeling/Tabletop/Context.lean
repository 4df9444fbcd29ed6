import Tabletop.Expr.Rolling

/-!
# Rolling on a budget

A context holds the state of a roller and counts the dice that its evaluations have taken since the
last reset. With a limit, an evaluation whose dice would bring the count above it is refused before
the first die is drawn, and leaves everything as it was. An evaluation that is accepted is counted
in full at once, also when its roll stops half-way.

The count is kept in 64 bits and stays at the highest number they hold rather than start over.
-/

namespace Tabletop

variable {σ : Type}

/-- A refusal: more dice would have been taken since the last reset than the context allows. -/
structure OverBudget where
  requested : Nat
  allowed : Nat
  deriving DecidableEq

/-- The wording of a refusal. -/
def OverBudget.message (e : OverBudget) : String :=
  "too many dice rolled: " ++ Numeral.decimal e.requested ++ " requested, at most "
    ++ Numeral.decimal e.allowed ++ " allowed"

/-- Why an evaluation gives no result. -/
inductive Stop where
  | overBudget (refusal : OverBudget)
  | halted (halt : Halt)
  deriving DecidableEq

/-- A roller state and the count of dice taken from it. -/
structure Context (σ : Type) where
  source : σ
  limit : Option Nat
  spent : Nat

namespace Context

/-- The highest count that a context keeps. -/
def highestCount : Nat := 0xffffffffffffffff

/-- The limit of a context that is given none of its own choice. -/
def defaultLimit : Nat := 1000

/-- A context that has taken no dice yet. -/
def new (limit : Option Nat) (source : σ) : Context σ := ⟨source, limit, 0⟩

/-- Forgets the dice taken. -/
def reset (c : Context σ) : Context σ := { c with spent := 0 }

/-- The count after some more dice. -/
def requested (c : Context σ) (draws : Nat) : Nat := min (c.spent + draws) highestCount

/-- Counts some more dice, unless that goes over the limit. -/
def reserve (c : Context σ) (draws : Nat) : Except OverBudget (Context σ) :=
  let counted := { c with spent := c.requested draws }
  match c.limit with
  | none => .ok counted
  | some most => if most < c.requested draws then .error ⟨c.requested draws, most⟩ else .ok counted

/-- A step of the roller, taken on the state that the context holds and counted nowhere. -/
def onSource {α : Type} (step : RollM σ α) : EStateM Halt (Context σ) α := fun c =>
  match step c.source with
  | .ok a source => .ok a { c with source := source }
  | .error halt source => .error halt { c with source := source }

/-- Rolls an expression, if its dice are within the budget. -/
def eval (r : Roller σ) (e : Expr) : EStateM Stop (Context σ) (Rolled Int64) := fun c =>
  match c.reserve e.draws with
  | .error refusal => .error (.overBudget refusal) c
  | .ok c =>
    -- the dice are counted already, so a roll that stops is counted like any other
    match onSource (e.roll r) c with
    | .ok rolled c => .ok rolled c
    | .error halt c => .error (.halted halt) c

/-- A reservation is refused exactly when there is a limit below the count it would lead to, and the
refusal names both. -/
theorem reserve_eq_error_iff {c : Context σ} {draws : Nat} {refusal : OverBudget} :
    c.reserve draws = .error refusal ↔
      c.limit = some refusal.allowed ∧ refusal.requested = c.requested draws ∧
        refusal.allowed < c.requested draws := by
  obtain ⟨requested, allowed⟩ := refusal
  unfold reserve
  cases hl : c.limit with
  | none => simp
  | some most =>
    by_cases hm : most < c.requested draws
    · simp only [hm, if_true, Except.error.injEq, OverBudget.mk.injEq, Option.some.injEq]
      refine ⟨fun ⟨hr, ha⟩ => ⟨ha, hr.symm, ?_⟩, fun ⟨ha, hr, _⟩ => ⟨hr.symm, ha⟩⟩
      rw [← ha]
      exact hm
    · simp only [hm, if_false, reduceCtorEq, Option.some.injEq, false_iff]
      intro ⟨ha, _, h⟩
      rw [← ha] at h
      exact hm h

end Context

end Tabletop
