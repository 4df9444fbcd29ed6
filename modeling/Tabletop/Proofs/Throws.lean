import Tabletop.Proofs.History
import Tabletop.Proofs.RoundTrip

/-!
# One throw, rolled in every way

Several equal dice can be thrown as they are, or as an expression of one term; the expression can be
read off their written form, and it can be rolled on a budget. On the way through an expression the
throw comes under a sign and into a sum, and each of the two could overflow. But the sign is a plus,
which applies nothing, and the sum starts at zero,

> `Checked.zero_add`: to add to zero always fits,

so an expression of one added term is that term (`Expr.roll_ofTerm`), whatever the roller makes of the
throw. The written form of dice is notation, because a number of dice is never negative, and so it is
read back as the same expression. With what an evaluation within the budget is (`eval_of_fits`), all
ways agree:

> `Dice.roll_every_way`: directly, as an expression, read back or on a budget, a throw gives the same
> result and log or stops alike, and leaves the same roller state.
-/

namespace Tabletop

variable {σ : Type}

/-- To add to zero always fits. -/
theorem Checked.zero_add (v : Int64) : add 0 v = .ok v := by
  apply narrow_eq_ok_iff.2
  exact (Int.zero_add _).symm

/-- A term under a plus is the term. -/
theorem SignedTerm.resolve_plus (r : Roller σ) (t : Term) : (plus t).resolve r = t.resolve r := by
  funext s
  have hterm : (plus t).term.resolve r s = t.resolve r s := rfl
  unfold resolve
  rw [RollM.bind_apply, hterm]
  cases t.resolve r s with
  | ok v s' => rfl
  | error halt s' => rfl

namespace Expr

/-! ## Expressions of one term -/

/-- The sum of one added term is its value. -/
theorem total_ofTerm (r : Roller σ) (t : Term) : (ofTerm t).total r = t.resolve r := by
  funext s
  show List.foldlM (addTerm r) 0 [SignedTerm.plus t] s = _
  rw [List.foldlM_cons, RollM.bind_apply]
  unfold addTerm
  rw [RollM.bind_apply, SignedTerm.resolve_plus]
  cases t.resolve r s with
  | ok v s' =>
    dsimp only
    rw [Checked.zero_add]
    rfl
  | error halt s' => rfl

/-- The plus in front of one added term is left out. -/
theorem description_ofTerm (t : Term) : (ofTerm t).description = String.ofList t.text := by
  show String.ofList (t.text ++ []) = _
  rw [List.append_nil]

/-- An expression of one added term is rolled as the term, under its written form. -/
theorem roll_ofTerm (r : Roller σ) (t : Term) :
    (ofTerm t).roll r = do
      let value ← t.resolve r
      return ⟨value, String.ofList t.text⟩ := by
  unfold roll
  rw [total_ofTerm, description_ofTerm]

/-- It takes the dice of the term. -/
theorem draws_ofTerm (t : Term) : (ofTerm t).draws = t.draws := Nat.add_zero _

end Expr

/-! ## One throw -/

namespace Dice

/-- A throw is rolled as an expression. -/
theorem roll_expr (d : Dice) (r : Roller σ) : d.expr.roll r = d.roll r := Expr.roll_ofTerm r (.dice d)

theorem draws_expr (d : Dice) : d.expr.draws = d.draws := Expr.draws_ofTerm (.dice d)

/-- The written form of a throw is read as the expression of the throw. -/
theorem read_expr (d : Dice) : Expr.read (String.ofList d.text) = .ok d.expr := by
  have hnotated : Expr.Notated d.expr.text d.expr := by
    apply Expr.notated_text
    intro t ht
    cases List.mem_singleton.mp ht
    exact not_false
  rw [← Expr.read_description_eq_ok_of_notated hnotated]
  exact congrArg Expr.read (Expr.description_ofTerm (.dice d)).symm

end Dice

namespace Context

/-- A throw on the roller state of a context, its dice counted. -/
def thrownOn (r : Roller σ) (c : Context σ) (d : Dice) :
    EStateM.Result Stop (Context σ) (Rolled Int64) :=
  match d.roll r c.source with
  | .ok rolled s => .ok rolled (c.charged d.draws s)
  | .error halt s => .error (.halted halt) (c.charged d.draws s)

/-- An evaluation within the budget is a plain roll. -/
theorem eval_of_fits {c : Context σ} {e : Expr}
    (h : ∀ most, c.limit = some most → c.requested e.draws ≤ most) (r : Roller σ) :
    c.eval r e = c.rolledOn r e := by
  rcases c.eval_refused_or_rolled r e with ⟨most, hlimit, hover, -⟩ | ⟨-, heval⟩
  · exact absurd (h most hlimit) (Nat.not_le_of_lt hover)
  · exact heval

theorem rolledOn_expr (r : Roller σ) (c : Context σ) (d : Dice) :
    c.rolledOn r d.expr = c.thrownOn r d := by
  unfold rolledOn thrownOn
  rw [d.roll_expr]
  cases d.roll r c.source with
  | ok rolled s => rw [d.draws_expr]
  | error halt s => rw [d.draws_expr]

end Context

/-- **A throw is the same in every way of rolling it.** For any dice, any roller and any state of it,
the throw itself, its expression, and what is read from its written form, which is never refused, are
rolled alike: with the same result and log, or with the same stop, and with the same state left. All
take the same number of dice; and a context whose budget allows for these gives that answer too, leaves
its roller in that state, and counts the dice. -/
theorem Dice.roll_every_way (d : Dice) (r : Roller σ) (s : σ) :
    d.expr.roll r s = d.roll r s ∧
    (∃ e, Expr.read (String.ofList d.text) = .ok e ∧ e.roll r s = d.roll r s ∧
      e.draws = d.draws) ∧
    d.expr.draws = d.draws ∧
    ∀ limit spent, (∀ most, limit = some most → min (spent + d.draws) Context.highestCount ≤ most) →
      Context.eval r d.expr ⟨s, limit, spent⟩ = Context.thrownOn r ⟨s, limit, spent⟩ d := by
  have hroll : d.expr.roll r s = d.roll r s := congrFun (d.roll_expr r) s
  refine ⟨hroll, ⟨d.expr, d.read_expr, hroll, d.draws_expr⟩, d.draws_expr, ?_⟩
  intro limit spent hfits
  rw [← d.draws_expr] at hfits
  rw [← Context.rolledOn_expr]
  exact Context.eval_of_fits hfits r

end Tabletop
