import Tabletop.Proofs.Budget

/-!
# Refusals leave no trace

A history of a context (`Context.history`) goes through some calls and keeps, for each of them, what
was answered and what the context was left as. Since a refused evaluation leaves the context it was
asked of, whatever the roller, the calls behind it go on as if it had not been made, and since an
accepted one is a plain roll on the context's roller state, the limit has no other part in a history
than to refuse:

> `refusal_leaves_no_trace`: without its refused evaluations a history goes on as before, and a
> history in which nothing is refused is that of a context without a limit.

Both are inductions on the calls, over one case analysis of a single evaluation
(`eval_refused_or_rolled`).
-/

namespace Tabletop

variable {σ : Type}

/-- A call with its answer, of which a reset has none, and the context after it. -/
structure Exchange (σ : Type) where
  call : Call
  answer : Option (Except Stop (Rolled Int64))
  left : Context σ

/-- Whether the call was an evaluation, and was refused. -/
def Exchange.refused (x : Exchange σ) : Bool :=
  match x.answer with
  | some (.error (.overBudget _)) => true
  | _ => false

namespace Context

/-- The same context without a limit. -/
def unlimited (c : Context σ) : Context σ := { c with limit := none }

/-- One call. -/
def exchange (r : Roller σ) (c : Context σ) : Call → Exchange σ
  | .eval e => ⟨.eval e, some (answerOf (c.eval r e)), leftBy (c.eval r e)⟩
  | .reset => ⟨.reset, none, c.reset⟩

/-- Several calls, one after the other. -/
def history (r : Roller σ) : Context σ → List Call → List (Exchange σ)
  | _, [] => []
  | c, call :: calls => c.exchange r call :: history r (c.exchange r call).left calls

/-! ## One evaluation -/

/-- An evaluation as a plain roll on the roller state of the context. -/
def rolledOn (r : Roller σ) (c : Context σ) (e : Expr) :
    EStateM.Result Stop (Context σ) (Rolled Int64) :=
  match e.roll r c.source with
  | .ok rolled s => .ok rolled (c.charged e.draws s)
  | .error halt s => .error (.halted halt) (c.charged e.draws s)

/-- A plain roll is not a refusal. -/
theorem answerOf_rolledOn_ne (r : Roller σ) (c : Context σ) (e : Expr) (refusal : OverBudget) :
    answerOf (c.rolledOn r e) ≠ .error (.overBudget refusal) := by
  unfold rolledOn
  cases e.roll r c.source with
  | ok rolled s => exact fun h => nomatch h
  | error halt s => exact fun h => nomatch h

/-- A plain roll counts its dice, whether or not it gets to its end. -/
theorem exists_leftBy_rolledOn (r : Roller σ) (c : Context σ) (e : Expr) :
    ∃ s, leftBy (c.rolledOn r e) = c.charged e.draws s := by
  unfold rolledOn
  cases e.roll r c.source with
  | ok rolled s => exact ⟨s, rfl⟩
  | error halt s => exact ⟨s, rfl⟩

/-- An evaluation is refused for a limit that the count would exceed, and leaves the context as it
was, or it is a plain roll. -/
theorem eval_refused_or_rolled (r : Roller σ) (c : Context σ) (e : Expr) :
    (∃ most, c.limit = some most ∧ most < c.requested e.draws ∧
      c.eval r e = .error (.overBudget ⟨c.requested e.draws, most⟩) c) ∨
    ((∀ most, c.limit = some most → c.requested e.draws ≤ most) ∧
      c.eval r e = c.rolledOn r e) := by
  cases hc : c.reserve e.draws with
  | error refusal =>
    obtain ⟨requested, allowed⟩ := refusal
    obtain ⟨hlimit, hrequested, hover⟩ := reserve_eq_error_iff.1 hc
    have heval := eval_of_refused (r := r) hc
    dsimp only at hlimit hrequested hover
    rw [hrequested] at heval
    exact .inl ⟨allowed, hlimit, hover, heval⟩
  | ok c' => exact .inr ⟨(reserve_of_ok hc).2, eval_of_accepted hc⟩

theorem eval_of_answerOf_ne {r : Roller σ} {c : Context σ} {e : Expr}
    (h : ∀ refusal, answerOf (c.eval r e) ≠ .error (.overBudget refusal)) :
    c.eval r e = c.rolledOn r e := by
  rcases c.eval_refused_or_rolled r e with ⟨most, -, -, heval⟩ | ⟨-, heval⟩
  · exact absurd (by rw [heval]; rfl) (h ⟨c.requested e.draws, most⟩)
  · exact heval

/-- An evaluation that gets to its end is a roll on the roller state of the context, with its dice
counted. -/
theorem exists_roll_of_eval {c c' : Context σ} {r : Roller σ} {e : Expr} {rolled : Rolled Int64}
    (h : c.eval r e = .ok rolled c') :
    ∃ s, e.roll r c.source = .ok rolled s ∧ c' = c.charged e.draws s := by
  rcases c.eval_refused_or_rolled r e with ⟨most, -, -, heval⟩ | ⟨-, heval⟩
  · rw [heval] at h
    cases h
  · rw [heval, rolledOn] at h
    cases hroll : e.roll r c.source with
    | error halt s =>
      rw [hroll] at h
      cases h
    | ok rolled' s =>
      rw [hroll] at h
      cases h
      exact ⟨s, rfl, rfl⟩

/-- An evaluation is refused exactly when there is a limit below the count it would lead to. -/
theorem answerOf_eval_eq_overBudget_iff {r : Roller σ} {c : Context σ} {e : Expr}
    {refusal : OverBudget} :
    answerOf (c.eval r e) = .error (.overBudget refusal) ↔
      c.limit = some refusal.allowed ∧ refusal.requested = c.requested e.draws ∧
        refusal.allowed < c.requested e.draws := by
  rcases c.eval_refused_or_rolled r e with ⟨most, hlimit, hover, heval⟩ | ⟨hfits, heval⟩
  · obtain ⟨requested, allowed⟩ := refusal
    rw [heval, hlimit]
    show Except.error (Stop.overBudget _) = _ ↔ _
    simp only [Except.error.injEq, Stop.overBudget.injEq, OverBudget.mk.injEq, Option.some.injEq]
    refine ⟨fun ⟨hr, ha⟩ => ⟨ha, hr.symm, ha ▸ hover⟩, fun ⟨ha, hr, _⟩ => ⟨hr.symm, ha⟩⟩
  · rw [heval]
    refine ⟨fun h => absurd h (answerOf_rolledOn_ne r c e refusal), fun ⟨hlimit, _, hover⟩ => ?_⟩
    exact absurd (hfits _ hlimit) (Nat.not_le_of_lt hover)

theorem leftBy_eval_of_refused {r : Roller σ} {c : Context σ} {e : Expr} {refusal : OverBudget}
    (h : answerOf (c.eval r e) = .error (.overBudget refusal)) : leftBy (c.eval r e) = c := by
  rcases c.eval_refused_or_rolled r e with ⟨most, -, -, heval⟩ | ⟨-, heval⟩
  · rw [heval]
    rfl
  · rw [heval] at h
    exact absurd h (answerOf_rolledOn_ne r c e refusal)

/-- The limit has no part in a plain roll. -/
theorem rolledOn_unlimited (r : Roller σ) (c : Context σ) (e : Expr) :
    answerOf (c.unlimited.rolledOn r e) = answerOf (c.rolledOn r e) ∧
      leftBy (c.unlimited.rolledOn r e) = (leftBy (c.rolledOn r e)).unlimited := by
  obtain ⟨source, limit, spent⟩ := c
  unfold rolledOn unlimited
  dsimp only
  cases e.roll r source with
  | ok rolled s => exact ⟨rfl, rfl⟩
  | error halt s => exact ⟨rfl, rfl⟩

/-! ## One call -/

theorem refused_eval_iff {r : Roller σ} {c : Context σ} {e : Expr} :
    (c.exchange r (.eval e)).refused = true ↔
      ∃ refusal, answerOf (c.eval r e) = .error (.overBudget refusal) := by
  show Exchange.refused ⟨.eval e, some (answerOf (c.eval r e)), _⟩ = true ↔ _
  cases answerOf (c.eval r e) with
  | ok rolled => exact ⟨fun h => (nomatch h), fun ⟨_, h⟩ => (nomatch h)⟩
  | error stop =>
    cases stop with
    | overBudget refusal => exact ⟨fun _ => ⟨refusal, rfl⟩, fun _ => rfl⟩
    | halted halt => exact ⟨fun h => (nomatch h), fun ⟨_, h⟩ => (nomatch h)⟩

/-- A refused call leaves the context it was asked of. -/
theorem left_of_refused {r : Roller σ} {c : Context σ} {call : Call}
    (h : (c.exchange r call).refused = true) : (c.exchange r call).left = c := by
  cases call with
  | reset => cases h
  | eval e =>
    obtain ⟨refusal, hanswer⟩ := refused_eval_iff.1 h
    exact leftBy_eval_of_refused hanswer

/-- A call that is not refused goes the same way without a limit. -/
theorem exchange_unlimited {r : Roller σ} {c : Context σ} {call : Call}
    (h : (c.exchange r call).refused = false) :
    c.unlimited.exchange r call =
      { c.exchange r call with left := (c.exchange r call).left.unlimited } := by
  cases call with
  | reset => rfl
  | eval e =>
    have hne : ∀ refusal, answerOf (c.eval r e) ≠ .error (.overBudget refusal) := by
      intro refusal hanswer
      rw [refused_eval_iff.2 ⟨refusal, hanswer⟩] at h
      cases h
    have hunlimited : ∀ refusal, answerOf (c.unlimited.eval r e) ≠ .error (.overBudget refusal) := by
      intro refusal hanswer
      obtain ⟨hlimit, -⟩ := answerOf_eval_eq_overBudget_iff.1 hanswer
      cases hlimit
    -- both are the plain roll on the same roller state, counted alike
    obtain ⟨hanswer, hleft⟩ := c.rolledOn_unlimited r e
    rw [← eval_of_answerOf_ne hne, ← eval_of_answerOf_ne hunlimited] at hanswer hleft
    show Exchange.mk (.eval e) (some (answerOf (c.unlimited.eval r e)))
      (leftBy (c.unlimited.eval r e)) = _
    rw [hanswer, hleft]
    rfl

/-! ## A whole history -/

/-- A history without its refused calls is the history of the calls that were not refused. -/
theorem history_filter (r : Roller σ) :
    ∀ (calls : List Call) (c : Context σ),
      history r c (((history r c calls).filter fun x => !x.refused).map Exchange.call) =
        (history r c calls).filter fun x => !x.refused := by
  intro calls
  induction calls with
  | nil => exact fun c => rfl
  | cons call calls ih =>
    intro c
    have hcall : (c.exchange r call).call = call := by cases call <;> rfl
    rw [history]
    cases hx : (c.exchange r call).refused with
    | true =>
      rw [List.filter_cons_of_neg (by simp [hx]), left_of_refused hx]
      exact ih c
    | false =>
      rw [List.filter_cons_of_pos (by simp [hx]), List.map_cons, hcall, history, ih]

/-- A history in which nothing is refused is that of a context without a limit. -/
theorem history_unlimited (r : Roller σ) :
    ∀ (calls : List Call) (c : Context σ), (∀ x ∈ history r c calls, x.refused = false) →
      history r c.unlimited calls =
        (history r c calls).map fun x => { x with left := x.left.unlimited } := by
  intro calls
  induction calls with
  | nil => exact fun c _ => rfl
  | cons call calls ih =>
    intro c h
    rw [history] at h ⊢
    obtain ⟨hx, hrest⟩ := List.forall_mem_cons.mp h
    rw [exchange_unlimited hx, history, List.map_cons, ih _ hrest]

/-- **A refusal leaves no trace, and everything else is plain rolling.** In any state of a context,
an evaluation is refused exactly when there is a limit below the count it would lead to, and the
refusal names both; then roller and count are as before. Any other evaluation is the roll of its
expression on the roller state of the context. So a history without its refused evaluations goes on
as before, answer by answer and context by context; and if there are none, the same calls go the same
way without a limit. -/
theorem refusal_leaves_no_trace (r : Roller σ) (c : Context σ) :
    (∀ e refusal, answerOf (c.eval r e) = .error (.overBudget refusal) ↔
      c.limit = some refusal.allowed ∧ refusal.requested = min (c.spent + e.draws) highestCount ∧
        refusal.allowed < min (c.spent + e.draws) highestCount) ∧
    (∀ e refusal, answerOf (c.eval r e) = .error (.overBudget refusal) →
      leftBy (c.eval r e) = c) ∧
    (∀ e, (∀ refusal, answerOf (c.eval r e) ≠ .error (.overBudget refusal)) →
      c.eval r e = match e.roll r c.source with
        | .ok rolled s => .ok rolled (c.charged e.draws s)
        | .error halt s => .error (.halted halt) (c.charged e.draws s)) ∧
    (∀ calls, history r c (((history r c calls).filter fun x => !x.refused).map Exchange.call) =
      (history r c calls).filter fun x => !x.refused) ∧
    ∀ calls, (∀ x ∈ history r c calls, x.refused = false) →
      history r c.unlimited calls =
        (history r c calls).map fun x => { x with left := x.left.unlimited } :=
  ⟨fun _ _ => answerOf_eval_eq_overBudget_iff, fun _ _ h => leftBy_eval_of_refused h,
    fun _ h => eval_of_answerOf_ne h, fun calls => history_filter r calls c,
    fun calls h => history_unlimited r calls c h⟩

end Context

end Tabletop
