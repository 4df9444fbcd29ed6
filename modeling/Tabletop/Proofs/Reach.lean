import Tabletop.Proofs.Exact
import Tabletop.Proofs.History

/-!
# How far a roll can reach

A constant is as far from zero as it is, and dice are at most as far as the number of throws times
the highest face. The sum of these distances over the terms of an expression is its *reach*
(`Expr.reach`). Whatever the signs are and in whatever order the terms are added, no exact value on
the way is further from zero than that: not the faces of one term, not the term under its sign, not
the running total. So a reach within the range rules out every overflow:

> `Expr.roll_of_reach_le`: an expression whose reach is within the range is rolled exactly.

What counts as the highest face is left open (`Faces.AtMost`). With the sides as the bound the reach
is about dice that keep to their sides. With the highest 32-bit number it says that a budget bounds
the reach, since an evaluation that is within the budget takes no more dice than that:

> `Context.eval_exact_within_budget`: a budget that is small enough rules out overflow.
-/

namespace Tabletop

open Checked (InRange)

variable {σ : Type}

/-- No face is above the bound for its sides. -/
def Faces.AtMost (f : Faces σ) (highest : UInt32 → Nat) : Prop :=
  ∀ sides s, (f sides s).1.toNat ≤ highest sides

/-- How far from zero the value of a term can be. -/
def Term.reach (highest : UInt32 → Nat) : Term → Nat
  | constant value => value.toInt.natAbs
  | dice d => d.draws * highest d.faces

/-- How far from zero the sum of signed terms can be. -/
def reachSum (highest : UInt32 → Nat) (ts : List SignedTerm) : Nat :=
  (ts.map fun t => t.term.reach highest).sum

/-- How far from zero the result of a roll can be. -/
def Expr.reach (highest : UInt32 → Nat) (e : Expr) : Nat := reachSum highest e.terms

/-! ## Values within reach -/

theorem reachSum_append (highest : UInt32 → Nat) (ts us : List SignedTerm) :
    reachSum highest (ts ++ us) = reachSum highest ts + reachSum highest us := by
  unfold reachSum
  rw [List.map_append, List.sum_append]

theorem Faces.AtMost.throw_le {f : Faces σ} {highest : UInt32 → Nat} (hf : f.AtMost highest)
    (sides : UInt32) :
    ∀ (times : Nat) (s : σ), (f.throw sides times s).1 ≤ times * highest sides := by
  intro times
  induction times with
  | zero => exact fun s => Nat.zero_le _
  | succ times ih =>
    intro s
    calc
      (f.throw sides (times + 1) s).1
        = (f sides s).1.toNat + (f.throw sides times (f sides s).2).1 := rfl
      _ ≤ highest sides + times * highest sides := Nat.add_le_add (hf sides s) (ih _)
      _ = (times + 1) * highest sides := by rw [Nat.succ_mul, Nat.add_comm]

theorem Term.natAbs_exact_le {f : Faces σ} {highest : UInt32 → Nat} (hf : f.AtMost highest)
    (t : Term) (s : σ) : (t.exact f s).1.natAbs ≤ t.reach highest := by
  cases t with
  | constant value => exact Nat.le_refl _
  | dice d => exact hf.throw_le d.faces d.draws s

theorem Sign.natAbs_exact (sign : Sign) (n : Int) : (sign.exact n).natAbs = n.natAbs := by
  cases sign with
  | plus => rfl
  | minus => exact Int.natAbs_neg n

/-- The exact sum of signed terms is within their reach. -/
theorem natAbs_exactSum_le {f : Faces σ} {highest : UInt32 → Nat} (hf : f.AtMost highest) :
    ∀ (ts : List SignedTerm) (s : σ), (exactSum f ts s).1.natAbs ≤ reachSum highest ts := by
  intro ts
  induction ts with
  | nil => exact fun s => Nat.le_refl 0
  | cons t ts ih =>
    intro s
    have hterm : (t.exact f s).1.natAbs ≤ t.term.reach highest := by
      show (t.sign.exact _).natAbs ≤ _
      rw [Sign.natAbs_exact]
      exact t.term.natAbs_exact_le hf s
    calc
      (exactSum f (t :: ts) s).1.natAbs
        ≤ (t.exact f s).1.natAbs + (exactSum f ts (t.exact f s).2).1.natAbs := Int.natAbs_add_le _ _
      _ ≤ t.term.reach highest + reachSum highest ts := Nat.add_le_add hterm (ih _)

/-! ## Rolls within reach -/

theorem Checked.inRange_of_natAbs_le {n : Int} (h : n.natAbs ≤ 2 ^ 63 - 1) : InRange n :=
  ⟨by omega, by omega⟩

/-- Where the terms up to this one are within reach, nothing overflows. -/
theorem not_overflows_of_reachSum_le {f : Faces σ} {highest : UInt32 → Nat}
    (hf : f.AtMost highest) {before : List SignedTerm} {t : SignedTerm} {s : σ}
    (h : reachSum highest (before ++ [t]) ≤ 2 ^ 63 - 1) : ¬Overflows f 0 before t s := by
  have hterm : t.term.reach highest ≤ 2 ^ 63 - 1 := by
    rw [reachSum_append] at h
    exact Nat.le_trans (Nat.le_add_left ..) h
  intro hover
  rcases hover with ⟨d, hd, hlarge⟩ | ⟨-, hlowest⟩ | hsum
  · have hfaces : (d.exact f (exactSum f before s).2).1 ≤ d.draws * highest d.faces :=
      hf.throw_le d.faces d.draws _
    rw [hd] at hterm
    exact absurd (Nat.lt_of_lt_of_le hlarge (Nat.le_trans hfaces hterm)) (Nat.lt_irrefl _)
  · -- the lowest constant is one further from zero than the highest
    have hlow : (Term.constant Int64.minValue).reach highest = 2 ^ 63 :=
      congrArg Int.natAbs Int64.toInt_minValue
    rw [hlowest, hlow] at hterm
    exact absurd hterm (by decide)
  · have hexact := natAbs_exactSum_le hf (before ++ [t]) s
    rw [Int.zero_add] at hsum
    exact hsum (Checked.inRange_of_natAbs_le (Nat.le_trans hexact h))

/-- An expression whose reach is within the range is rolled exactly. -/
theorem Expr.roll_of_reach_le {f : Faces σ} {highest : UInt32 → Nat} (hf : f.AtMost highest)
    {e : Expr} (h : e.reach highest ≤ 2 ^ 63 - 1) (s : σ) :
    ∃ total : Int64, total.toInt = (exactSum f e.terms s).1 ∧
      e.roll f.roller s = .ok ⟨total, e.description⟩ (exactSum f e.terms s).2 := by
  have hfits : ∀ before t after, e.terms = before ++ t :: after → ¬Overflows f 0 before t s := by
    intro before t after hsplit
    refine not_overflows_of_reachSum_le hf (Nat.le_trans ?_ h)
    -- the terms behind `t` only add to the reach
    rw [reach, hsplit, List.append_cons before t after, reachSum_append _ (before ++ [t])]
    exact Nat.le_add_right ..
  obtain ⟨total, hroll, htotal⟩ := foldlM_addTerm_of_fits f e.terms 0 s hfits
  refine ⟨total, htotal.trans (Int.zero_add _), ?_⟩
  rw [roll_apply, hroll]

/-! ## Budgets -/

/-- How far from zero the constant of a term is. -/
def Term.constantReach : Term → Nat
  | constant value => value.toInt.natAbs
  | dice _ => 0

/-- The sum of the absolute values of the constants. -/
def Expr.constantReach (e : Expr) : Nat := (e.terms.map fun t => t.term.constantReach).sum

/-- If all dice have the same highest face, the reach is that of the constants and of the draws. -/
theorem Expr.reach_const (n : Nat) (e : Expr) :
    e.reach (fun _ => n) = e.constantReach + e.draws * n := by
  unfold reach reachSum constantReach draws
  induction e.terms with
  | nil => simp
  | cons t ts ih =>
    have hterm : t.term.reach (fun _ => n) = t.term.constantReach + t.draws * n := by
      cases ht : t.term with
      | constant value => simp [Term.reach, Term.constantReach, SignedTerm.draws, ht, Term.draws]
      | dice d => simp [Term.reach, Term.constantReach, SignedTerm.draws, ht, Term.draws]
    simp only [List.map_cons, List.sum_cons, hterm, Nat.add_mul]
    omega

/-- Every face is at most the highest 32-bit number. -/
theorem Faces.atMost_highest (f : Faces σ) : f.AtMost fun _ => 2 ^ 32 - 1 := by
  intro sides s
  have hlt := (f sides s).1.toNat_lt
  exact Nat.le_sub_one_of_lt hlt

namespace Context

/-- An evaluation does not change the limit. -/
theorem limit_leftBy_eval (r : Roller σ) (c : Context σ) (e : Expr) :
    (leftBy (c.eval r e)).limit = c.limit := by
  rcases c.eval_refused_or_rolled r e with ⟨most, -, -, heval⟩ | ⟨-, heval⟩
  · rw [heval]
    rfl
  · obtain ⟨s, hleft⟩ := exists_leftBy_rolledOn r c e
    rw [heval, hleft]
    rfl

/-- The log of an evaluation is the description of its expression. -/
theorem log_of_eval {r : Roller σ} {c c' : Context σ} {e : Expr} {rolled : Rolled Int64}
    (h : c.eval r e = .ok rolled c') : rolled.log = e.description := by
  obtain ⟨s, hroll, -⟩ := exists_roll_of_eval h
  rw [Expr.roll_apply] at hroll
  cases htotal : e.terms.foldlM (Expr.addTerm r) 0 c.source with
  | ok total s' =>
    rw [htotal] at hroll
    cases hroll
    rfl
  | error halt s' =>
    rw [htotal] at hroll
    cases hroll

/-- An evaluation on a budget is refused, or else exact: the dice that it takes are within the
budget, and so is their part of the reach. -/
theorem eval_of_constantReach_le (f : Faces σ) {c : Context σ} {most : Nat}
    (hlimit : c.limit = some most) {e : Expr}
    (h : e.constantReach + most * (2 ^ 32 - 1) ≤ 2 ^ 63 - 1) :
    most < c.spent + e.draws ∧
        c.eval f.roller e = .error (.overBudget ⟨c.requested e.draws, most⟩) c ∨
      c.spent + e.draws ≤ most ∧ ∃ total : Int64, total.toInt = (exactSum f e.terms c.source).1 ∧
        c.eval f.roller e =
          .ok ⟨total, e.description⟩ (c.charged e.draws (exactSum f e.terms c.source).2) := by
  -- a budget this small is below the highest count, which therefore plays no part
  have hmost : most < highestCount := by
    have : most ≤ most * (2 ^ 32 - 1) := Nat.le_mul_of_pos_right most (by decide)
    unfold highestCount
    omega
  rcases c.eval_refused_or_rolled f.roller e with ⟨most', hlimit', hover, heval⟩ | ⟨hfits, heval⟩
  · rw [hlimit] at hlimit'
    cases hlimit'
    exact .inl ⟨Nat.lt_of_lt_of_le hover (Nat.min_le_left ..), heval⟩
  · have hspent : c.spent + e.draws ≤ most := by
      have hrequested := hfits most hlimit
      unfold requested at hrequested
      omega
    have hreach : e.reach (fun _ => 2 ^ 32 - 1) ≤ 2 ^ 63 - 1 := by
      have hdraws : e.draws ≤ most := Nat.le_trans (Nat.le_add_left ..) hspent
      rw [e.reach_const]
      exact Nat.le_trans (Nat.add_le_add_left (Nat.mul_le_mul_right _ hdraws) _) h
    obtain ⟨total, htotal, hroll⟩ := e.roll_of_reach_le f.atMost_highest hreach c.source
    refine .inr ⟨hspent, total, htotal, ?_⟩
    rw [heval, rolledOn, hroll]

end Context

/-- No call changes the limit. -/
theorem Ledger.limit_run (die : Die σ) (calls : List Call) (l : Ledger σ) :
    (l.run die calls).context.limit = l.context.limit := by
  induction calls generalizing l with
  | nil => rfl
  | cons call calls ih =>
    have hstep : (l.step die call).context.limit = l.context.limit := by
      cases call with
      | reset => rfl
      | eval e => exact l.context.limit_leftBy_eval (.ofDie die) e
    exact (ih (l.step die call)).trans hstep

/-- **A budget rules out overflow.** If the constants of an expression and as many of the highest
faces as the budget has dice are together within the range, then after any calls on a new context
with that budget, whatever the faces are, the expression is refused for its dice, or its roll gets to
its end and gives the exact sum. Dice have no other part in the condition, however many they are. -/
theorem Context.eval_exact_within_budget (f : Faces σ) {most : Nat} {e : Expr}
    (h : e.constantReach + most * (2 ^ 32 - 1) ≤ 2 ^ 63 - 1) (source : σ) (calls : List Call) :
    let c := ((Ledger.new (some most) source).run f.die calls).context
    most < c.spent + e.draws ∧
        c.eval f.roller e = .error (.overBudget ⟨c.requested e.draws, most⟩) c ∨
      c.spent + e.draws ≤ most ∧ ∃ total : Int64, total.toInt = (exactSum f e.terms c.source).1 ∧
        c.eval f.roller e =
          .ok ⟨total, e.description⟩ (c.charged e.draws (exactSum f e.terms c.source).2) := by
  intro c
  have hlimit : c.limit = some most := Ledger.limit_run f.die calls (.new (some most) source)
  exact eval_of_constantReach_le f hlimit h

/-- Every face is the highest there is, the constant leaves room for just the budget, the budget is
spent to its end, and the result is the highest number there is. -/
theorem Context.eval_exact_within_budget_highest :
    let f : Faces Nat := fun _ asked => (0xffffffff, asked + 1)
    let e : Expr := ⟨[.plus (.dice ⟨0xffffffff, 0⟩), .plus (.constant 0x7ffffffd00000002),
      .plus (.dice ⟨3, 6⟩)]⟩
    let calls := [.eval (.ofDice ⟨3, 6⟩), .reset, .eval (.ofDice ⟨4, 6⟩)]
    let c := ((Ledger.new (some 3) 0).run f.die calls).context
    e.constantReach + 3 * (2 ^ 32 - 1) ≤ 2 ^ 63 - 1 ∧ c.spent + e.draws ≤ 3 ∧
      c.eval f.roller e = .ok ⟨0x7fffffffffffffff, e.description⟩ (c.charged e.draws 6) := by
  intro f e calls c
  have hreach : e.constantReach + 3 * (2 ^ 32 - 1) ≤ 2 ^ 63 - 1 := by decide
  have hspent : c.spent + e.draws ≤ 3 := by decide
  refine ⟨hreach, hspent, ?_⟩
  rcases eval_exact_within_budget f hreach 0 calls with ⟨hover, -⟩ | ⟨-, total, htotal, heval⟩
  · exact absurd hspent (Nat.not_le_of_lt hover)
  · have hsum : exactSum f e.terms c.source = (0x7fffffffffffffff, 6) := by decide
    have hlast : total = 0x7fffffffffffffff := by
      rw [← Int64.toInt_inj, htotal, hsum]
      rfl
    rw [heval, hsum, hlast]

end Tabletop
