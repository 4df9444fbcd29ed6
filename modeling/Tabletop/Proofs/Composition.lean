import Tabletop.Proofs.Exact
import Tabletop.Roller.Fixed

/-!
# Composition is arithmetic on rolls

To add or subtract expressions is to join their lists of terms, and what that does to a roll is said
here for any roller, also for one with its own way to sum several dice. The sums on the way through
a joined list are not those of its parts, so the checked totals are left behind first: `SumsTo` says
that terms are resolved one after the other and what their exact sum is, and asks of no sum on the
way that it fits. Every roll that gets to its end is such a row (`Expr.sumsTo_of_roll`), rows are
joined and inverted (`SumsTo.append`, `SumsTo.inverted`), and no terms have two sums from one state
(`SumsTo.unique`). Hence

> `Expr.roll_composed`: rolls of `a + b`, `a - b` and `-b` that get to their ends give the sum, the
> difference and the opposite of the rolls of `a` and `b`, for the same throws in the same order.

The throws are told by a roller that notes down what it is asked and in which state
(`Roller.noted`). As the joined row asks the roller for nothing that its parts do not, all that can
stop it is an overflow (`SumsTo.overflow_of_stop`).
-/

namespace Tabletop

variable {σ : Type}

/-! ## Sums that are not checked -/

/-- From one state to another, the terms are resolved one after the other, and the sum of their exact
values is the integer. -/
inductive SumsTo (r : Roller σ) : List SignedTerm → σ → Int → σ → Prop where
  | nil {s : σ} : SumsTo r [] s 0 s
  | cons {t : SignedTerm} {ts : List SignedTerm} {s s₁ s₂ : σ} {v : Int64} {n : Int} :
    t.term.resolve r s = .ok v s₁ → SumsTo r ts s₁ n s₂ →
      SumsTo r (t :: ts) s (t.sign.exact v.toInt + n) s₂

theorem Sign.exact_inverted (sign : Sign) (n : Int) : sign.inverted.exact n = -sign.exact n := by
  cases sign with
  | plus => rfl
  | minus => exact (Int.neg_neg n).symm

namespace SumsTo

variable {r : Roller σ}

/-- One row after the other, the sums add up. -/
theorem append {ts us : List SignedTerm} {s s₁ s₂ : σ} {m n : Int} (h : SumsTo r ts s m s₁)
    (h' : SumsTo r us s₁ n s₂) : SumsTo r (ts ++ us) s (m + n) s₂ := by
  induction h with
  | nil =>
    rw [Int.zero_add]
    exact h'
  | cons hv _ ih =>
    rw [Int.add_assoc]
    exact .cons hv (ih h')

/-- Under the other signs, the sum is the opposite. -/
theorem inverted {ts : List SignedTerm} {s s' : σ} {n : Int} (h : SumsTo r ts s n s') :
    SumsTo r (ts.map SignedTerm.inverted) s (-n) s' := by
  induction h with
  | nil => exact .nil
  | @cons t _ _ _ _ v n hv _ ih =>
    rw [Int.neg_add, ← Sign.exact_inverted]
    exact .cons (t := t.inverted) hv ih

/-- The terms and the state determine the sum and the state that is left. -/
theorem unique {ts : List SignedTerm} {s s₁ s₂ : σ} {m n : Int} (h : SumsTo r ts s m s₁)
    (h' : SumsTo r ts s n s₂) : m = n ∧ s₁ = s₂ := by
  induction h generalizing n with
  | nil =>
    cases h'
    exact ⟨rfl, rfl⟩
  | cons hv _ ih =>
    cases h' with
    | cons hv' hrest =>
      rw [hv] at hv'
      cases hv'
      obtain ⟨rfl, rfl⟩ := ih hrest
      exact ⟨rfl, rfl⟩

end SumsTo

/-- A term that can be resolved is added exactly, or else its sign or the sum overflows. -/
theorem addTerm_of_resolve {r : Roller σ} (total : Int64) {v : Int64} {t : SignedTerm} {s s' : σ}
    (h : t.term.resolve r s = .ok v s') :
    (∃ sum, Expr.addTerm r total t s = .ok sum s' ∧
        sum.toInt = total.toInt + t.sign.exact v.toInt) ∨
      ∃ halt, Expr.addTerm r total t s = .error halt s' ∧
        (halt = .addOverflow ∨ halt = .negateOverflow) := by
  rw [addTerm_apply, h]
  by_cases hsigned : Checked.InRange (t.sign.exact v.toInt)
  · obtain ⟨w, hw, hwi⟩ := Sign.apply_of_inRange hsigned
    rw [← hwi]
    cases hsum : Checked.add total w with
    | ok sum =>
      refine .inl ⟨sum, ?_, Checked.narrow_eq_ok_iff.1 hsum⟩
      simp only [hw, hsum]
    | error halt =>
      refine .inr ⟨halt, ?_, .inl (Checked.narrow_eq_error_iff.1 hsum).2⟩
      simp only [hw, hsum]
  · refine .inr ⟨.negateOverflow, ?_, .inr rfl⟩
    simp only [Sign.apply_of_not_inRange hsigned]

/-- A term that is added was resolved, and what it adds is its exact value. -/
theorem exists_resolve_of_addTerm {r : Roller σ} {total sum : Int64} {t : SignedTerm} {s s' : σ}
    (h : Expr.addTerm r total t s = .ok sum s') :
    ∃ v, t.term.resolve r s = .ok v s' ∧ sum.toInt = total.toInt + t.sign.exact v.toInt := by
  cases hv : t.term.resolve r s with
  | error halt s₁ =>
    rw [addTerm_apply, hv] at h
    cases h
  | ok v s₁ =>
    rcases addTerm_of_resolve total hv with ⟨sum', hadd, hsum⟩ | ⟨halt, hadd, -⟩
    · rw [hadd] at h
      cases h
      exact ⟨v, rfl, hsum⟩
    · rw [hadd] at h
      cases h

/-- A running total that gets to its end has grown by the exact sum of the terms. -/
theorem sumsTo_of_foldlM {r : Roller σ} {ts : List SignedTerm} {total v : Int64} {s s' : σ}
    (h : ts.foldlM (Expr.addTerm r) total s = .ok v s') :
    SumsTo r ts s (v.toInt - total.toInt) s' := by
  induction ts generalizing total s with
  | nil =>
    cases h
    rw [Int.sub_self]
    exact .nil
  | cons t ts ih =>
    rw [List.foldlM_cons, RollM.bind_apply] at h
    cases hadd : Expr.addTerm r total t s with
    | error halt s₁ =>
      rw [hadd] at h
      cases h
    | ok sum s₁ =>
      rw [hadd] at h
      obtain ⟨w, hw, hsum⟩ := exists_resolve_of_addTerm hadd
      have hvalue : v.toInt - total.toInt = t.sign.exact w.toInt + (v.toInt - sum.toInt) := by
        omega
      rw [hvalue]
      exact .cons hw (ih h)

/-- Nothing but an overflow stops the running total over terms that can all be resolved. -/
theorem SumsTo.overflow_of_stop {r : Roller σ} {ts : List SignedTerm} {s s' : σ} {n : Int}
    (h : SumsTo r ts s n s') {total : Int64} {halt : Halt} {s'' : σ}
    (hstop : ts.foldlM (Expr.addTerm r) total s = .error halt s'') :
    halt = .addOverflow ∨ halt = .negateOverflow := by
  induction h generalizing total with
  | nil => cases hstop
  | @cons t ts s s₁ _ v n hv _ ih =>
    rw [List.foldlM_cons, RollM.bind_apply] at hstop
    rcases addTerm_of_resolve total hv with ⟨sum, hadd, -⟩ | ⟨halt', hadd, hover⟩
    · rw [hadd] at hstop
      exact ih hstop
    · rw [hadd] at hstop
      cases hstop
      exact hover

/-! ## Rolls -/

namespace Expr

/-- A roll that gets to its end gives the exact sum of its terms. -/
theorem sumsTo_of_roll {r : Roller σ} {e : Expr} {s s' : σ} {rolled : Rolled Int64}
    (h : e.roll r s = .ok rolled s') : SumsTo r e.terms s rolled.result.toInt s' := by
  rw [roll_apply] at h
  cases htotal : e.terms.foldlM (addTerm r) 0 s with
  | error halt s₁ =>
    rw [htotal] at h
    cases h
  | ok total s₁ =>
    rw [htotal] at h
    cases h
    have hsum := sumsTo_of_foldlM htotal
    rw [show total.toInt - (0 : Int64).toInt = total.toInt from Int.sub_zero _] at hsum
    exact hsum

/-- All that can stop the roll of terms that have an exact sum is an overflow. -/
theorem overflow_of_roll_stop {r : Roller σ} {e : Expr} {s s₁ s₂ : σ} {halt : Halt} {n : Int}
    (h : e.roll r s = .error halt s₁) (hsum : SumsTo r e.terms s n s₂) :
    halt = .addOverflow ∨ halt = .negateOverflow := by
  rw [roll_apply] at h
  cases htotal : e.terms.foldlM (addTerm r) 0 s with
  | error halt' s' =>
    rw [htotal] at h
    cases h
    exact hsum.overflow_of_stop htotal
  | ok total s' =>
    rw [htotal] at h
    cases h

-- an overflow it may be, where the parts get to their ends
example :
    let r : Roller (List UInt32) := .ofDie Die.scripted
    let e : Expr := ⟨[.plus (.constant Int64.maxValue)]⟩
    e.roll r [] = .ok ⟨Int64.maxValue, e.description⟩ [] ∧
      (e + e).roll r [] = .error .addOverflow [] :=
  ⟨rfl, rfl⟩

end Expr

/-! ## Throws on record -/

/-- Dice that a roller was asked to throw together, and its state at that moment. -/
structure Throw (σ : Type) where
  source : σ
  repetitions : UInt32
  sides : UInt32

/-- A state together with the throws that were asked for so far, the latest last. -/
structure Noted (σ : Type) where
  source : σ
  throws : List (Throw σ)

/-- What a step leaves, with throws on the record. -/
def Noted.after {α : Type} (throws : List (Throw σ)) :
    EStateM.Result Halt σ α → EStateM.Result Halt (Noted σ) α
  | .ok a s => .ok a ⟨s, throws⟩
  | .error halt s => .error halt ⟨s, throws⟩

/-- The same roller, noting down what it is asked. -/
def Roller.noted (r : Roller σ) : Roller (Noted σ) where
  roll sides := fun n => Noted.after (n.throws ++ [⟨n.source, 1, sides⟩]) (r.roll sides n.source)
  rollSum repetitions sides := fun n =>
    Noted.after (n.throws ++ [⟨n.source, repetitions, sides⟩]) (r.rollSum repetitions sides n.source)

/-- From every state the second step does what the first one does, and notes down some throws behind
those that are on the record. -/
def Notes {α : Type} (x : RollM σ α) (x' : RollM (Noted σ) α) : Prop :=
  ∀ s, ∃ throws, ∀ before, x' ⟨s, before⟩ = Noted.after (before ++ throws) (x s)

namespace Notes

variable {α β : Type}

theorem pure (a : α) : Notes (σ := σ) (Pure.pure a) (Pure.pure a) := by
  intro s
  refine ⟨[], fun before => ?_⟩
  rw [List.append_nil]
  rfl

theorem ofExcept (v : Except Halt α) :
    Notes (σ := σ) (RollM.ofExcept v) (RollM.ofExcept v) := by
  intro s
  refine ⟨[], fun before => ?_⟩
  rw [List.append_nil]
  cases v with
  | ok a => rfl
  | error halt => rfl

/-- One after the other, the throws follow each other. -/
theorem bind {x : RollM σ α} {x' : RollM (Noted σ) α} {f : α → RollM σ β}
    {f' : α → RollM (Noted σ) β} (h : Notes x x') (hf : ∀ a, Notes (f a) (f' a)) :
    Notes (x >>= f) (x' >>= f') := by
  intro s
  obtain ⟨first, hfirst⟩ := h s
  cases hx : x s with
  | error halt s₁ =>
    refine ⟨first, fun before => ?_⟩
    rw [RollM.bind_apply, RollM.bind_apply, hfirst, hx]
    rfl
  | ok a s₁ =>
    obtain ⟨second, hsecond⟩ := hf a s₁
    refine ⟨first ++ second, fun before => ?_⟩
    rw [RollM.bind_apply, RollM.bind_apply, hfirst, hx]
    show f' a ⟨s₁, before ++ first⟩ = _
    rw [hsecond, List.append_assoc]

end Notes

theorem Term.resolve_notes (r : Roller σ) (t : Term) : Notes (t.resolve r) (t.resolve r.noted) := by
  cases t with
  | constant value => exact .pure value
  | dice d =>
    show Notes (if d.faces = 0 then _ else _) (if d.faces = 0 then _ else _)
    by_cases hf : d.faces = 0
    · rw [if_pos hf, if_pos hf]
      exact .pure 0
    · rw [if_neg hf, if_neg hf]
      exact fun s => ⟨[⟨s, d.repetitions, d.faces⟩], fun before => rfl⟩

theorem foldlM_addTerm_notes (r : Roller σ) :
    ∀ (ts : List SignedTerm) (total : Int64),
      Notes (ts.foldlM (Expr.addTerm r) total) (ts.foldlM (Expr.addTerm r.noted) total) := by
  intro ts
  induction ts with
  | nil => exact fun total => .pure total
  | cons t ts ih =>
    intro total
    rw [List.foldlM_cons, List.foldlM_cons]
    have hsigned := (t.term.resolve_notes r).bind fun value => .ofExcept (t.sign.apply value)
    exact (hsigned.bind fun value => .ofExcept (Checked.add total value)).bind ih

namespace Expr

theorem roll_notes (r : Roller σ) (e : Expr) : Notes (e.roll r) (e.roll r.noted) :=
  (foldlM_addTerm_notes r e.terms 0).bind fun _ => .pure _

/-- The throws that a roll asks for, in this order. -/
def throws (r : Roller σ) (e : Expr) (s : σ) : List (Throw σ) :=
  match e.roll r.noted ⟨s, []⟩ with
  | .ok _ n => n.throws
  | .error _ n => n.throws

/-- To note down the throws of a roll makes no difference to it, and puts them behind those that are
on the record. -/
theorem roll_noted (r : Roller σ) (e : Expr) (s : σ) (before : List (Throw σ)) :
    e.roll r.noted ⟨s, before⟩ = Noted.after (before ++ e.throws r s) (e.roll r s) := by
  obtain ⟨throws, hthrows⟩ := e.roll_notes r s
  have hrecord : e.throws r s = throws := by
    unfold Expr.throws
    rw [hthrows]
    cases e.roll r s with
    | ok rolled s' => rfl
    | error halt s' => rfl
  rw [hthrows, hrecord]

/-- On record as well, a roll that gets to its end gives the exact sum of its terms. -/
theorem sumsTo_noted_of_roll {r : Roller σ} {e : Expr} {s s' : σ} {rolled : Rolled Int64}
    (h : e.roll r s = .ok rolled s') (before : List (Throw σ)) :
    SumsTo r.noted e.terms ⟨s, before⟩ rolled.result.toInt ⟨s', before ++ e.throws r s⟩ := by
  have hnoted : e.roll r.noted ⟨s, before⟩ = .ok rolled ⟨s', before ++ e.throws r s⟩ := by
    rw [roll_noted, h]
    rfl
  exact sumsTo_of_roll hnoted

/-- What is known of the exact sum of a roll that gets to its end, and of the record it leaves, is
what it gives and what it asks for. -/
theorem roll_eq_of_sumsTo_noted {r : Roller σ} {e : Expr} {s s₁ s₂ : σ} {rolled : Rolled Int64}
    {n : Int} {throws : List (Throw σ)} (h : e.roll r s = .ok rolled s₁)
    (hsum : SumsTo r.noted e.terms ⟨s, []⟩ n ⟨s₂, throws⟩) :
    rolled.result.toInt = n ∧ s₁ = s₂ ∧ e.throws r s = throws := by
  obtain ⟨hn, hleft⟩ := (sumsTo_noted_of_roll h []).unique hsum
  cases hleft
  exact ⟨hn, rfl, rfl⟩

/-- **Composition is arithmetic on rolls.** Let `a` be rolled, and `b` from the state that this
leaves. Then a roll of `a + b` that gets to its end gives the sum of the two results, a roll of
`a - b` their difference, and a roll of `-b`, from where `b` was rolled, the opposite of its result.
Each leaves the state that `b` left, and has asked for the same throws in the same order and from the
same states. Nothing but an overflow can stop it before its end. Draws are counted accordingly. -/
theorem roll_composed (r : Roller σ) (a b : Expr) :
    (∀ s s₁ s₂ ra rb, a.roll r s = .ok ra s₁ → b.roll r s₁ = .ok rb s₂ →
      (∀ rolled s', (a + b).roll r s = .ok rolled s' →
        rolled.result.toInt = ra.result.toInt + rb.result.toInt ∧ s' = s₂ ∧
          (a + b).throws r s = a.throws r s ++ b.throws r s₁) ∧
      (∀ rolled s', (a - b).roll r s = .ok rolled s' →
        rolled.result.toInt = ra.result.toInt - rb.result.toInt ∧ s' = s₂ ∧
          (a - b).throws r s = a.throws r s ++ b.throws r s₁) ∧
      (∀ rolled s', (-b).roll r s₁ = .ok rolled s' →
        rolled.result.toInt = -rb.result.toInt ∧ s' = s₂ ∧
          (-b).throws r s₁ = b.throws r s₁) ∧
      ∀ halt s', (a + b).roll r s = .error halt s' ∨ (a - b).roll r s = .error halt s' ∨
          (-b).roll r s₁ = .error halt s' →
        halt = .addOverflow ∨ halt = .negateOverflow) ∧
    (a + b).draws = a.draws + b.draws ∧ (a - b).draws = a.draws + b.draws ∧
      (-b).draws = b.draws := by
  refine ⟨fun s s₁ s₂ ra rb ha hb => ?_, draws_add a b, draws_sub a b, draws_neg b⟩
  have hsum := sumsTo_noted_of_roll ha []
  have hfirst := sumsTo_noted_of_roll hb []
  have hsecond := sumsTo_noted_of_roll hb ([] ++ a.throws r s)
  refine ⟨fun rolled s' h => ?_, fun rolled s' h => ?_, fun rolled s' h => ?_, ?_⟩
  · exact roll_eq_of_sumsTo_noted h (hsum.append hsecond)
  · exact roll_eq_of_sumsTo_noted h (hsum.append hsecond.inverted)
  · exact roll_eq_of_sumsTo_noted h hfirst.inverted
  · intro halt s' h
    have hsum := sumsTo_of_roll ha
    have hsecond := sumsTo_of_roll hb
    rcases h with h | h | h
    · exact overflow_of_roll_stop h (hsum.append hsecond)
    · exact overflow_of_roll_stop h (hsum.append hsecond.inverted)
    · exact overflow_of_roll_stop h hsecond.inverted

/-- Two dice and a constant, less one die and a constant, from a list of five faces. -/
theorem roll_composed_scripted :
    let r : Roller (List UInt32) := .ofDie Die.scripted
    let a : Expr := ⟨[.plus (.dice ⟨2, 6⟩), .plus (.constant 3)]⟩
    let b : Expr := ⟨[.plus (.dice ⟨1, 8⟩), ⟨.minus, .constant 2⟩]⟩
    a.roll r [5, 6, 7, 1, 1] = .ok ⟨14, a.description⟩ [7, 1, 1] ∧
      b.roll r [7, 1, 1] = .ok ⟨5, b.description⟩ [1, 1] ∧
      (a - b).roll r [5, 6, 7, 1, 1] = .ok ⟨9, (a - b).description⟩ [1, 1] ∧
      (9 : Int64).toInt = (14 : Int64).toInt - (5 : Int64).toInt ∧
      (a - b).throws r [5, 6, 7, 1, 1] = [⟨[5, 6, 7, 1, 1], 2, 6⟩] ++ [⟨[7, 1, 1], 1, 8⟩] := by
  intro r a b
  obtain ⟨hresult, -, hthrows⟩ :=
    ((roll_composed r a b).1 [5, 6, 7, 1, 1] [7, 1, 1] [1, 1] _ _ rfl rfl).2.1 _ _ rfl
  exact ⟨rfl, rfl, rfl, hresult, hthrows⟩

end Expr

end Tabletop
