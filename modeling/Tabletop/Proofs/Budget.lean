import Mathlib.Algebra.Order.Ring.Int
import Tabletop.Context
import Tabletop.Proofs.Draws

/-!
# The budget over whole runs

A context is asked for evaluations and resets, in any order, and its evaluations may be refused, get
to their end, or stop half-way. A ledger (`Ledger`) keeps, beside the context, an entry for each
evaluation since the last reset, with the dice that were drawn for it. The dice are those on the
record of a second evaluation, of the same expression on a context with the same roller state and an
empty record; `eval_cases` shows that it gives what the first one gives.

`Honours most l` is what the budget `most` promises of a ledger: the count is the sum of the draws
of the accepted expressions, it is at most `most`, and the dice drawn are at most the count, and as
many if no roll stopped. One call preserves it (`Honours.step`), because a count that is not refused
is below the highest one and therefore not cut off, and because a roll draws the first few of its
requests, of which there are as many as its draws.

> `Ledger.honours_run`: every run from a new context with a limit honours the limit.
-/

namespace Tabletop

open Die (Recorded)

variable {σ : Type}

/-- Something to ask of a context. -/
inductive Call where
  | eval (e : Expr)
  | reset

namespace Context

/-- The same context with a record beside its roller state. -/
def onRecord (c : Context σ) (drawn : List UInt32) : Context (Recorded σ) :=
  ⟨⟨c.source, drawn⟩, c.limit, c.spent⟩

/-- The context after a roll that was accepted. -/
def charged (c : Context σ) (draws : Nat) (source : σ) : Context σ :=
  { c with source := source, spent := c.requested draws }

end Context

/-- What an evaluation answers. -/
def answerOf : EStateM.Result Stop σ (Rolled Int64) → Except Stop (Rolled Int64)
  | .ok rolled _ => .ok rolled
  | .error stop _ => .error stop

/-- What an evaluation leaves. -/
def leftBy : EStateM.Result Stop σ (Rolled Int64) → σ
  | .ok _ c => c
  | .error _ c => c

/-- An evaluation: the expression, the answer and the sides of the dice that were drawn for it. -/
structure Entry where
  expr : Expr
  answer : Except Stop (Rolled Int64)
  drawn : List UInt32

namespace Entry

/-- Whether the budget let the roll begin. -/
def accepted (entry : Entry) : Bool :=
  match entry.answer with
  | .error (.overBudget _) => false
  | _ => true

/-- Whether the roll began, and stopped before its end. -/
def halted (entry : Entry) : Bool :=
  match entry.answer with
  | .error (.halted _) => true
  | _ => false

/-- The entry of an evaluation with a given die. -/
def ofEval (die : Die σ) (c : Context σ) (e : Expr) : Entry :=
  ⟨e, answerOf (c.eval (.ofDie die) e),
    (leftBy ((c.onRecord []).eval (.ofDie die.recorded) e)).source.drawn.reverse⟩

end Entry

/-- A context and its evaluations since the last reset, the latest last. -/
structure Ledger (σ : Type) where
  context : Context σ
  entries : List Entry

namespace Ledger

/-- A new context, of which nothing was asked so far. -/
def new (limit : Option Nat) (source : σ) : Ledger σ := ⟨.new limit source, []⟩

/-- Asks for one thing more. -/
def step (die : Die σ) (l : Ledger σ) : Call → Ledger σ
  | .eval e => ⟨leftBy (l.context.eval (.ofDie die) e), l.entries ++ [.ofEval die l.context e]⟩
  | .reset => ⟨l.context.reset, []⟩

/-- Asks for several things, one after the other. -/
def run (die : Die σ) (l : Ledger σ) (calls : List Call) : Ledger σ := calls.foldl (step die) l

/-- The draws of all expressions that were accepted. -/
def charge (l : Ledger σ) : Nat :=
  ((l.entries.filter Entry.accepted).map fun entry => entry.expr.draws).sum

/-- The number of all dice that were drawn. -/
def dice (l : Ledger σ) : Nat := (l.entries.map fun entry => entry.drawn.length).sum

end Ledger

/-! ## One evaluation -/

namespace Context

/-- An evaluation whose reservation is refused changes nothing. -/
theorem eval_of_refused {c : Context σ} {r : Roller σ} {e : Expr} {refusal : OverBudget}
    (h : c.reserve e.draws = .error refusal) :
    c.eval r e = .error (.overBudget refusal) c := by
  unfold eval
  rw [h]

/-- A reservation that is not refused counts the draws. -/
theorem reserve_of_ok {c c' : Context σ} {draws : Nat} (h : c.reserve draws = .ok c') :
    c' = c.charged draws c.source ∧ ∀ most, c.limit = some most → c.requested draws ≤ most := by
  obtain ⟨source, limit, spent⟩ := c
  cases limit with
  | none =>
    cases h
    exact ⟨rfl, fun most hm => nomatch hm⟩
  | some most =>
    unfold reserve at h
    dsimp only at h
    by_cases hover : most < (Context.mk source (some most) spent).requested draws
    · rw [if_pos hover] at h
      cases h
    · rw [if_neg hover] at h
      cases h
      refine ⟨rfl, fun most' hm => ?_⟩
      cases hm
      exact Nat.le_of_not_lt hover

/-- An evaluation that is accepted rolls on the roller state of the context. -/
theorem eval_of_accepted {c c' : Context σ} {r : Roller σ} {e : Expr}
    (h : c.reserve e.draws = .ok c') :
    c.eval r e = match e.roll r c.source with
      | .ok rolled s => .ok rolled (c.charged e.draws s)
      | .error halt s => .error (.halted halt) (c.charged e.draws s) := by
  obtain ⟨rfl, -⟩ := reserve_of_ok h
  unfold eval onSource
  rw [h]
  dsimp only [charged]
  cases e.roll r c.source with
  | ok rolled s => rfl
  | error halt s => rfl

/-- A record makes no difference to a reservation. -/
theorem reserve_onRecord (c : Context σ) (drawn : List UInt32) (draws : Nat) :
    (c.onRecord drawn).reserve draws =
      (c.reserve draws).map fun counted => counted.onRecord drawn := by
  obtain ⟨source, limit, spent⟩ := c
  cases limit with
  | none => rfl
  | some most =>
    show (if most < min (spent + draws) highestCount then _ else _) =
      Except.map _ (if most < min (spent + draws) highestCount then _ else _)
    by_cases hover : most < min (spent + draws) highestCount
    · rw [if_pos hover, if_pos hover]
      rfl
    · rw [if_neg hover, if_neg hover]
      rfl

/-- An evaluation is refused, and then draws nothing and changes nothing; or it is within the limit,
and draws what its expression requests, as long as the roll goes on. -/
theorem eval_cases (die : Die σ) (c : Context σ) (e : Expr) :
    (∃ refusal, c.eval (.ofDie die) e = .error (.overBudget refusal) c ∧
      (c.onRecord []).eval (.ofDie die.recorded) e =
        .error (.overBudget refusal) (c.onRecord [])) ∨
    ((∀ most, c.limit = some most → c.requested e.draws ≤ most) ∧
      ((∃ rolled s, c.eval (.ofDie die) e = .ok rolled (c.charged e.draws s) ∧
        (c.onRecord []).eval (.ofDie die.recorded) e =
          .ok rolled ((c.charged e.draws s).onRecord e.requests.reverse)) ∨
      ∃ halt s p, p <+: e.requests ∧
        c.eval (.ofDie die) e = .error (.halted halt) (c.charged e.draws s) ∧
        (c.onRecord []).eval (.ofDie die.recorded) e =
          .error (.halted halt) ((c.charged e.draws s).onRecord p.reverse))) := by
  have hreserve := reserve_onRecord c [] e.draws
  cases hc : c.reserve e.draws with
  | error refusal =>
    rw [hc] at hreserve
    exact .inl ⟨refusal, eval_of_refused hc, eval_of_refused hreserve⟩
  | ok c' =>
    rw [hc] at hreserve
    refine .inr ⟨(reserve_of_ok hc).2, ?_⟩
    rw [eval_of_accepted hc, eval_of_accepted hreserve]
    cases hroll : e.roll (.ofDie die) c.source with
    | ok rolled s =>
      have hrec := Expr.roll_recorded_of_ok (r := ⟨c.source, []⟩) hroll
      rw [List.append_nil] at hrec
      refine .inl ⟨rolled, s, rfl, ?_⟩
      simp only [onRecord, hrec]
      rfl
    | error halt s =>
      obtain ⟨p, hp, hrec⟩ := Expr.roll_recorded_of_error (r := ⟨c.source, []⟩) hroll
      rw [List.append_nil] at hrec
      refine .inr ⟨halt, s, p, hp, rfl, ?_⟩
      simp only [onRecord, hrec]
      rfl

end Context

/-- What an entry says of its evaluation: refused, it drew nothing and changed nothing; accepted, it
is charged in full, and drew its requests or, if it stopped, the first few of them. -/
theorem Entry.ofEval_cases (die : Die σ) (c : Context σ) (e : Expr) :
    ((ofEval die c e).accepted = false ∧ (ofEval die c e).drawn = [] ∧
      leftBy (c.eval (.ofDie die) e) = c) ∨
    ((ofEval die c e).accepted = true ∧ (ofEval die c e).drawn <+: e.requests ∧
      ((ofEval die c e).halted = false → (ofEval die c e).drawn = e.requests) ∧
      (∀ most, c.limit = some most → c.requested e.draws ≤ most) ∧
      ∃ s, leftBy (c.eval (.ofDie die) e) = c.charged e.draws s) := by
  unfold ofEval
  rcases c.eval_cases die e with ⟨refusal, heval, hrec⟩ | ⟨hfits, hroll⟩
  · rw [heval, hrec]
    exact .inl ⟨rfl, rfl, rfl⟩
  · rcases hroll with ⟨rolled, s, heval, hrec⟩ | ⟨halt, s, p, hp, heval, hrec⟩
    · rw [heval, hrec]
      have hdrawn : e.requests.reverse.reverse = e.requests := List.reverse_reverse _
      have hpre : e.requests.reverse.reverse <+: e.requests :=
        ⟨[], (List.append_nil _).trans hdrawn⟩
      exact .inr ⟨rfl, hpre, fun _ => hdrawn, hfits, s, rfl⟩
    · rw [heval, hrec]
      have hpre : p.reverse.reverse <+: e.requests := by
        rw [List.reverse_reverse]
        exact hp
      exact .inr ⟨rfl, hpre, fun h => (nomatch h), hfits, s, rfl⟩

/-! ## A whole run -/

namespace Ledger

/-- What a budget promises of the context and of its evaluations since the last reset. -/
structure Honours (most : Nat) (l : Ledger σ) : Prop where
  /-- The limit is the budget. -/
  limit : l.context.limit = some most
  /-- The count is the sum of the draws of the accepted expressions. -/
  spent : l.context.spent = l.charge
  /-- The count is within the budget. -/
  spent_le : l.context.spent ≤ most
  /-- No more dice were drawn than are counted. -/
  dice_le : l.dice ≤ l.context.spent
  /-- As many dice were drawn as are counted, if no roll stopped half-way. -/
  dice_eq : (∀ entry ∈ l.entries, entry.halted = false) → l.dice = l.context.spent

/-- One more entry is charged if it was accepted. -/
theorem charge_append (c c' : Context σ) (entries : List Entry) (entry : Entry) :
    charge ⟨c', entries ++ [entry]⟩ =
      charge ⟨c, entries⟩ + if entry.accepted then entry.expr.draws else 0 := by
  unfold charge
  dsimp only
  rw [List.filter_append, List.map_append, List.sum_append]
  cases ha : entry.accepted with
  | false =>
    rw [List.filter_cons_of_neg (by rw [ha]; exact Bool.false_ne_true)]
    rfl
  | true =>
    rw [List.filter_cons_of_pos ha]
    rfl

theorem dice_append (c c' : Context σ) (entries : List Entry) (entry : Entry) :
    dice ⟨c', entries ++ [entry]⟩ = dice ⟨c, entries⟩ + entry.drawn.length := by
  unfold dice
  rw [List.map_append, List.sum_append]
  rfl

theorem honours_new (most : Nat) (source : σ) : Honours most (new (some most) source) :=
  ⟨rfl, rfl, Nat.zero_le _, Nat.le_refl _, fun _ => rfl⟩

/-- An entry that was refused and drew nothing keeps the promise. -/
theorem Honours.append_refused {most : Nat} {c : Context σ} {entries : List Entry} {entry : Entry}
    (h : Honours most ⟨c, entries⟩) (haccepted : entry.accepted = false) (hdrawn : entry.drawn = []) :
    Honours most ⟨c, entries ++ [entry]⟩ := by
  have hcharge := charge_append c c entries entry
  have hdice := dice_append c c entries entry
  rw [haccepted] at hcharge
  rw [hdrawn] at hdice
  refine ⟨h.limit, h.spent.trans hcharge.symm, h.spent_le, ?_, fun hgo => ?_⟩
  · rw [hdice]
    exact h.dice_le
  · rw [hdice]
    exact h.dice_eq fun entry hmem => hgo entry (List.mem_append_left _ hmem)

/-- An entry that was accepted keeps the promise, if it is charged within the budget and drew what it
requested as far as it went. -/
theorem Honours.append_accepted {most : Nat} (hmost : most < Context.highestCount) {c : Context σ}
    {entries : List Entry} {entry : Entry} (h : Honours most ⟨c, entries⟩)
    (haccepted : entry.accepted = true) (hpre : entry.drawn <+: entry.expr.requests)
    (hall : entry.halted = false → entry.drawn = entry.expr.requests)
    (hfits : c.requested entry.expr.draws ≤ most) (s : σ) :
    Honours most ⟨c.charged entry.expr.draws s, entries ++ [entry]⟩ := by
  -- the highest count is above the limit, so the count was not cut off at it
  have hspent : c.requested entry.expr.draws = c.spent + entry.expr.draws := by
    unfold Context.requested at hfits ⊢
    omega
  have hcharge := charge_append c (c.charged entry.expr.draws s) entries entry
  have hdice := dice_append c (c.charged entry.expr.draws s) entries entry
  have hlength := hpre.length_le
  rw [entry.expr.length_requests] at hlength
  rw [haccepted, if_pos rfl] at hcharge
  refine ⟨h.limit, ?_, hfits, ?_, fun hgo => ?_⟩
  · -- on both sides the draws of the new entry come on top
    rw [hcharge, ← h.spent]
    exact hspent
  · rw [hdice]
    show _ ≤ c.requested entry.expr.draws
    rw [hspent]
    exact Nat.add_le_add h.dice_le hlength
  · -- if no roll stopped, neither the new one did nor those before
    have hnew := hgo entry (List.mem_append_right _ List.mem_cons_self)
    have hold := h.dice_eq fun entry hmem => hgo entry (List.mem_append_left _ hmem)
    rw [hdice, hold, hall hnew, entry.expr.length_requests]
    exact hspent.symm

/-- One call keeps the promise. -/
theorem Honours.step {most : Nat} (hmost : most < Context.highestCount) (die : Die σ) {l : Ledger σ}
    (h : Honours most l) (call : Call) : Honours most (l.step die call) := by
  cases call with
  | reset => exact ⟨h.limit, rfl, Nat.zero_le _, Nat.le_refl _, fun _ => rfl⟩
  | eval e =>
    obtain ⟨c, entries⟩ := l
    show Honours most ⟨leftBy (c.eval (.ofDie die) e), entries ++ [.ofEval die c e]⟩
    rcases Entry.ofEval_cases die c e with
      ⟨haccepted, hdrawn, hleft⟩ | ⟨haccepted, hpre, hall, hfits, s, hleft⟩
    · rw [hleft]
      exact h.append_refused haccepted hdrawn
    · rw [hleft]
      exact h.append_accepted hmost haccepted hpre hall (hfits most h.limit) s

/-- **A run honours its budget.** After any calls on a new context with a limit below the highest
count, whatever the die and wherever rolls were refused or stopped: the count is the sum of the draws
of the expressions accepted since the last reset and is within the limit, and the dice drawn since
then are no more than that, and as many if no roll among them stopped half-way. -/
theorem honours_run {most : Nat} (hmost : most < Context.highestCount) (die : Die σ) (source : σ)
    (calls : List Call) : Honours most ((new (some most) source).run die calls) := by
  have hrun : ∀ (calls : List Call) (l : Ledger σ), Honours most l → Honours most (l.run die calls) := by
    intro calls
    induction calls with
    | nil => exact fun l h => h
    | cons call calls ih => exact fun l h => ih (l.step die call) (h.step hmost die call)
  exact hrun calls _ (honours_new most source)

/-- Two dice rolled, a reset, two more rolled, four refused, and three begun with one face left. -/
theorem honours_run_scripted :
    let l := (new (some 5) [2, 6, 3, 1, 4]).run Die.scripted
      [.eval (.ofDice ⟨2, 6⟩), .reset, .eval (.ofDice ⟨2, 6⟩), .eval (.ofDice ⟨4, 6⟩),
        .eval (.ofDice ⟨3, 6⟩)]
    5 < Context.highestCount ∧ l.context.spent = 5 ∧ l.dice = 3 ∧ Honours 5 l :=
  ⟨by decide, rfl, rfl, honours_run (by decide) Die.scripted _ _⟩

end Ledger

end Tabletop
