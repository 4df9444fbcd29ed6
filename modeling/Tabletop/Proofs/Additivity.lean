import Tabletop.Proofs.Composition
import Tabletop.Proofs.History

/-!
# Budgets are additive

A joined expression takes as many dice as its parts, so whether it is evaluated as a whole or part by
part should make no difference to a budget. What could make one is the count, which is cut off at the
highest number it can hold: a whole is cut off once, and its parts twice. But a count that was cut off
stays where it is,

> `Context.requested_charged`: to count some dice and then some more is to count them together,

and a count never goes down, so that a limit which lets the second part pass lets the first one pass
too (`Context.admits_iff_of_draws_eq`). With the exact sums of rolls (`SumsTo`), which do not depend
on how the terms are grouped, this gives

> `Context.eval_composed`: on any context, `a + b` and `a - b` are accepted exactly when `a` and then
> `b` are, and leave the context that these leave.
-/

namespace Tabletop

variable {σ : Type}

namespace Context

/-- An evaluation of the expression is accepted, whatever becomes of its roll. -/
def Admits (c : Context σ) (r : Roller σ) (e : Expr) : Prop :=
  ∀ refusal, answerOf (c.eval r e) ≠ .error (.overBudget refusal)

/-! ## The count -/

/-- To count some dice and then some more is to count them together. -/
theorem requested_charged (c : Context σ) (m n : Nat) (s : σ) :
    (c.charged m s).requested n = c.requested (m + n) := by
  show min (min (c.spent + m) highestCount + n) highestCount =
    min (c.spent + (m + n)) highestCount
  omega

theorem charged_charged (c : Context σ) (m n : Nat) (s s' : σ) :
    (c.charged m s).charged n s' = c.charged (m + n) s' := by
  show Context.mk s' c.limit ((c.charged m s).requested n) = _
  rw [requested_charged]
  rfl

/-- The count never goes down. -/
theorem requested_le_requested_add (c : Context σ) (m n : Nat) :
    c.requested m ≤ c.requested (m + n) := by
  unfold requested
  omega

/-! ## What is accepted -/

/-- An evaluation is accepted when the count it leads to is within the limit. -/
theorem admits_iff {c : Context σ} {r : Roller σ} {e : Expr} :
    c.Admits r e ↔ ∀ most, c.limit = some most → c.requested e.draws ≤ most := by
  rcases c.eval_refused_or_rolled r e with ⟨most, hlimit, hover, heval⟩ | ⟨hfits, heval⟩
  · refine iff_of_false (fun h => ?_) fun h => ?_
    · exact h ⟨c.requested e.draws, most⟩ (by rw [heval]; rfl)
    · exact absurd (h most hlimit) (Nat.not_le_of_lt hover)
  · refine iff_of_true (fun refusal => ?_) hfits
    rw [heval]
    exact answerOf_rolledOn_ne r c e refusal

/-- An accepted evaluation counts its dice, whether or not its roll gets to its end. -/
theorem exists_leftBy_eval_eq_charged {c : Context σ} {r : Roller σ} {e : Expr}
    (h : c.Admits r e) : ∃ s, leftBy (c.eval r e) = c.charged e.draws s := by
  rw [eval_of_answerOf_ne h]
  exact exists_leftBy_rolledOn r c e

/-- An expression that takes as many dice as two others together is accepted exactly when the two
are, one after the other. -/
theorem admits_iff_of_draws_eq (c : Context σ) (r : Roller σ) {a b e : Expr}
    (h : e.draws = a.draws + b.draws) :
    c.Admits r e ↔ c.Admits r a ∧ (leftBy (c.eval r a)).Admits r b := by
  rw [admits_iff, h]
  refine ⟨fun hwhole => ?_, fun ⟨hfirst, hsecond⟩ => ?_⟩
  · have hfirst : c.Admits r a := by
      rw [admits_iff]
      intro most hlimit
      exact Nat.le_trans (c.requested_le_requested_add _ _) (hwhole most hlimit)
    refine ⟨hfirst, ?_⟩
    obtain ⟨s, hleft⟩ := exists_leftBy_eval_eq_charged hfirst
    rw [hleft, admits_iff, requested_charged]
    exact hwhole
  · obtain ⟨s, hleft⟩ := exists_leftBy_eval_eq_charged hfirst
    rw [hleft, admits_iff, requested_charged] at hsecond
    exact hsecond

/-! ## What is left -/

/-- What is known of the exact sum of the terms is what an evaluation gives that gets to its end, and
what it leaves. -/
theorem eval_eq_of_sumsTo {c c' : Context σ} {r : Roller σ} {e : Expr} {rolled : Rolled Int64}
    {n : Int} {s : σ} (h : c.eval r e = .ok rolled c') (hsum : SumsTo r e.terms c.source n s) :
    rolled.result.toInt = n ∧ c' = c.charged e.draws s := by
  obtain ⟨s', hroll, hleft⟩ := exists_roll_of_eval h
  obtain ⟨hn, hs⟩ := (Expr.sumsTo_of_roll hroll).unique hsum
  rw [hs] at hleft
  exact ⟨hn, hleft⟩

/-- **A budget is additive.** In any state of a context, with or without a limit, an evaluation of
`a + b` is accepted exactly when an evaluation of `a` and one of `b` behind it are both accepted, and
so is one of `a - b`. And if all of them get to their ends, both ways leave the same context, with
the same count and the same roller state, and the result of the whole is the sum or the difference of
the results of the parts. -/
theorem eval_composed (c : Context σ) (r : Roller σ) (a b : Expr) :
    (c.Admits r (a + b) ↔ c.Admits r a ∧ (leftBy (c.eval r a)).Admits r b) ∧
    (c.Admits r (a - b) ↔ c.Admits r a ∧ (leftBy (c.eval r a)).Admits r b) ∧
    ∀ ra c₁ rb c₂, c.eval r a = .ok ra c₁ → c₁.eval r b = .ok rb c₂ →
      (∀ rolled c', c.eval r (a + b) = .ok rolled c' →
        c' = c₂ ∧ rolled.result.toInt = ra.result.toInt + rb.result.toInt) ∧
      ∀ rolled c', c.eval r (a - b) = .ok rolled c' →
        c' = c₂ ∧ rolled.result.toInt = ra.result.toInt - rb.result.toInt := by
  refine ⟨c.admits_iff_of_draws_eq r (Expr.draws_add a b),
    c.admits_iff_of_draws_eq r (Expr.draws_sub a b), fun ra c₁ rb c₂ ha hb => ?_⟩
  obtain ⟨s₁, hrolla, rfl⟩ := exists_roll_of_eval ha
  obtain ⟨s₂, hrollb, rfl⟩ := exists_roll_of_eval hb
  have hsuma := Expr.sumsTo_of_roll hrolla
  have hsumb := Expr.sumsTo_of_roll hrollb
  rw [charged_charged]
  refine ⟨fun rolled c' h => ?_, fun rolled c' h => ?_⟩
  · obtain ⟨hn, hleft⟩ := eval_eq_of_sumsTo h (hsuma.append hsumb)
    rw [Expr.draws_add] at hleft
    exact ⟨hleft, hn⟩
  · obtain ⟨hn, hleft⟩ := eval_eq_of_sumsTo h (hsuma.append hsumb.inverted)
    rw [Expr.draws_sub] at hleft
    exact ⟨hleft, hn⟩

/-- Two dice and a constant, less one die and a constant; one die is on the count before, and there is
none left for another. -/
theorem eval_composed_scripted :
    let r : Roller (List UInt32) := .ofDie Die.scripted
    let a : Expr := ⟨[.plus (.dice ⟨2, 6⟩), .plus (.constant 3)]⟩
    let b : Expr := ⟨[.plus (.dice ⟨1, 8⟩), ⟨.minus, .constant 2⟩]⟩
    let c : Context (List UInt32) := ⟨[5, 6, 7, 1], some 4, 1⟩
    c.eval r a = .ok ⟨14, a.description⟩ ⟨[7, 1], some 4, 3⟩ ∧
      Context.eval r b ⟨[7, 1], some 4, 3⟩ = .ok ⟨5, b.description⟩ ⟨[1], some 4, 4⟩ ∧
      c.eval r (a - b) = .ok ⟨9, (a - b).description⟩ ⟨[1], some 4, 4⟩ ∧
      c.Admits r (a - b) ∧ (9 : Int64).toInt = (14 : Int64).toInt - (5 : Int64).toInt := by
  intro r a b c
  have ha : c.eval r a = .ok ⟨14, a.description⟩ ⟨[7, 1], some 4, 3⟩ := rfl
  have hb : Context.eval r b ⟨[7, 1], some 4, 3⟩ = .ok ⟨5, b.description⟩ ⟨[1], some 4, 4⟩ := rfl
  have hwhole : c.eval r (a - b) = .ok ⟨9, (a - b).description⟩ ⟨[1], some 4, 4⟩ := rfl
  obtain ⟨-, hsub, hparts⟩ := eval_composed c r a b
  refine ⟨ha, hb, hwhole, hsub.2 ⟨?_, ?_⟩, ((hparts _ _ _ _ ha hb).2 _ _ hwhole).2⟩
  · intro refusal h
    rw [ha] at h
    cases h
  · intro refusal h
    rw [ha] at h
    change answerOf (Context.eval r b ⟨[7, 1], some 4, 3⟩) = _ at h
    rw [hb] at h
    cases h

end Context

end Tabletop
