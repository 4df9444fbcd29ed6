import Tabletop.Expr.Rolling
import Tabletop.Roller.Fixed

/-!
# The dice a roll asks for

Which dice an expression asks for can be read off before it is rolled (`Expr.requests`): for each
term its dice, from left to right. That a roll keeps to them, whatever the faces are, is said of two
dice at once. `InStep` relates a step over the one to a step over the other: both ask for the same
sides in the same order, and after the same face both go on in step.

> `Expr.roll_inStep`: the rolls of an expression with any two dice are in step, along its requests.

The second die may keep books on the first (`Die.KeepsBooks`). That changes nothing about the roll,
and the books show the requests, all of them if the roll gets to its end and the first few if it
stops (`InStep.booked`). Two ways of keeping books differ on a question that the die leaves without
an answer: a die that records its draws (`Die.recorded`) passes over it, and one that notes down what
it is asked (`Die.noted`) does not. What the second one notes down is said without the count of
draws, on which budgets rest, so that the two can be compared:

> `Expr.roll_asks_sides`: a roll asks for the sides that stand in its terms, and for nothing else.
-/

namespace Tabletop

open Die (Recorded)

variable {σ τ : Type}

/-- The sides that one throw asks for. -/
def Dice.requests (d : Dice) : List UInt32 := List.replicate d.draws d.faces

/-- The sides that a term asks for. -/
def Term.requests : Term → List UInt32
  | constant _ => []
  | dice d => d.requests

/-- The sides that a roll asks for. -/
def Expr.requests (e : Expr) : List UInt32 := e.terms.flatMap fun t => t.term.requests

theorem Term.length_requests (t : Term) : t.requests.length = t.draws := by
  cases t with
  | constant value => rfl
  | dice d => exact List.length_replicate

/-- There are as many requests as draws. -/
theorem Expr.length_requests (e : Expr) : e.requests.length = e.draws := by
  unfold requests draws
  rw [List.length_flatMap]
  exact congrArg List.sum (List.map_congr_left fun t _ => t.term.length_requests)

/-- Two steps that ask their dice for the same sides, in the same order, and go on alike after the
same face. The list holds the sides: all that are asked for up to the end, and possibly more if the
steps stop. -/
inductive InStep (d : Die σ) (d' : Die τ) {α : Type} :
    List UInt32 → RollM σ α → RollM τ α → Prop where
  /-- Both end, with the same answer. -/
  | done (a : α) : InStep d d' [] (pure a) (pure a)
  /-- Both stop, for the same reason. -/
  | stop (halt : Halt) (l : List UInt32) : InStep d d' l (throw halt) (throw halt)
  /-- Both ask for a face. -/
  | draw {l : List UInt32} (sides : UInt32) {k : UInt32 → RollM σ α} {k' : UInt32 → RollM τ α} :
    (∀ face, InStep d d' l (k face) (k' face)) →
      InStep d d' (sides :: l) (d sides >>= k) (d' sides >>= k')

namespace InStep

variable {d : Die σ} {d' : Die τ} {α β : Type}

/-- A checked value asks for no face. -/
theorem ofExcept (v : Except Halt α) :
    InStep d d' [] (RollM.ofExcept v) (RollM.ofExcept v) := by
  cases v with
  | ok a => exact .done a
  | error halt => exact .stop halt []

/-- One after the other, the requests follow each other. -/
theorem bind {l m : List UInt32} {x : RollM σ α} {x' : RollM τ α} {f : α → RollM σ β}
    {f' : α → RollM τ β} (h : InStep d d' l x x') (hf : ∀ a, InStep d d' m (f a) (f' a)) :
    InStep d d' (l ++ m) (x >>= f) (x' >>= f') := by
  induction h with
  | done a =>
    rw [pure_bind, pure_bind]
    exact hf a
  | stop halt l => exact .stop halt (l ++ m)
  | draw sides _ ih =>
    -- the face is asked for first, and what comes behind it is a step with a continuation again
    rw [bind_assoc, bind_assoc]
    exact .draw sides ih

end InStep

/-! ## Rolls are in step -/

/-- Sums of faces are in step. -/
theorem sumFaces_inStep (d : Die σ) (d' : Die τ) (sides : UInt32) :
    ∀ (times : Nat) (total : Int64),
      InStep d d' (List.replicate times sides) (sumFaces (d sides) times total)
        (sumFaces (d' sides) times total) := by
  intro times
  induction times with
  | zero => exact fun total => .done total
  | succ times ih =>
    intro total
    refine .draw sides fun face => ?_
    exact (InStep.ofExcept (Checked.add total (Int64.ofNat face.toNat))).bind ih

theorem Dice.resolve_inStep (d : Die σ) (d' : Die τ) (dice : Dice) :
    InStep d d' dice.requests (dice.resolve (.ofDie d)) (dice.resolve (.ofDie d')) := by
  unfold requests draws resolve
  by_cases hf : dice.faces = 0
  · rw [if_pos hf, if_pos hf, if_pos hf]
    exact .done 0
  · rw [if_neg hf, if_neg hf, if_neg hf]
    exact sumFaces_inStep d d' dice.faces dice.repetitions.toNat 0

theorem Term.resolve_inStep (d : Die σ) (d' : Die τ) (t : Term) :
    InStep d d' t.requests (t.resolve (.ofDie d)) (t.resolve (.ofDie d')) := by
  cases t with
  | constant value => exact .done value
  | dice dice => exact dice.resolve_inStep d d'

/-- Additions of a term to a running total are in step. -/
theorem Expr.addTerm_inStep (d : Die σ) (d' : Die τ) (total : Int64) (t : SignedTerm) :
    InStep d d' t.term.requests (addTerm (.ofDie d) total t) (addTerm (.ofDie d') total t) := by
  have hresolve : InStep d d' t.term.requests (t.resolve (.ofDie d)) (t.resolve (.ofDie d')) := by
    have h := (t.term.resolve_inStep d d').bind fun value => .ofExcept (t.sign.apply value)
    rw [List.append_nil] at h
    exact h
  have h := hresolve.bind fun value => .ofExcept (Checked.add total value)
  rw [List.append_nil] at h
  exact h

theorem foldlM_addTerm_inStep (d : Die σ) (d' : Die τ) :
    ∀ (ts : List SignedTerm) (total : Int64),
      InStep d d' (ts.flatMap fun t => t.term.requests) (ts.foldlM (Expr.addTerm (.ofDie d)) total)
        (ts.foldlM (Expr.addTerm (.ofDie d')) total) := by
  intro ts
  induction ts with
  | nil => exact fun total => .done total
  | cons t ts ih =>
    intro total
    rw [List.flatMap_cons, List.foldlM_cons, List.foldlM_cons]
    exact (Expr.addTerm_inStep d d' total t).bind ih

/-- **A roll asks for its requests.** Whatever the two dice are, the rolls of an expression with them
ask for the same sides in the same order, the requests of the expression, and as long as the faces
agree, so do the results. -/
theorem Expr.roll_inStep (d : Die σ) (d' : Die τ) (e : Expr) :
    InStep d d' e.requests (e.roll (.ofDie d)) (e.roll (.ofDie d')) := by
  have hdone : ∀ total : Int64, InStep d d' [] (pure ⟨total, e.description⟩)
      (pure (⟨total, e.description⟩ : Rolled Int64)) := fun total => .done _
  have h := (foldlM_addTerm_inStep d d' e.terms 0).bind hdone
  rw [List.append_nil] at h
  exact h

/-! ## Rolls on record -/

/-- A die that gives the faces of another one and keeps a list of their sides. A question that is not
answered may be on the list or not. -/
structure Die.KeepsBooks (die : Die σ) (books : Die (Recorded σ)) : Prop where
  of_ok : ∀ {sides : UInt32} {r : Recorded σ} {face : UInt32} {s : σ},
    die sides r.source = .ok face s → books sides r = .ok face ⟨s, sides :: r.drawn⟩
  of_error : ∀ {sides : UInt32} {r : Recorded σ} {halt : Halt} {s : σ},
    die sides r.source = .error halt s →
      ∃ p, p <+: [sides] ∧ books sides r = .error halt ⟨s, p.reverse ++ r.drawn⟩

theorem Die.keepsBooks_recorded (die : Die σ) : die.KeepsBooks die.recorded where
  of_ok h := by unfold recorded; rw [h]
  of_error h := ⟨[], List.nil_prefix, by unfold recorded; rw [h]; rfl⟩

/-- A step in step with one that keeps books on it ends where that ends, and the list has grown by
all requests; or stops where that stops, and the list has grown by some of them. -/
theorem InStep.booked {die : Die σ} {books : Die (Recorded σ)} (hbooks : die.KeepsBooks books)
    {α : Type} {l : List UInt32} {x : RollM σ α} {x' : RollM (Recorded σ) α}
    (h : InStep die books l x x') :
    ∀ r : Recorded σ,
      (∀ a s, x r.source = .ok a s → x' r = .ok a ⟨s, l.reverse ++ r.drawn⟩) ∧
        ∀ halt s, x r.source = .error halt s →
          ∃ p, p <+: l ∧ x' r = .error halt ⟨s, p.reverse ++ r.drawn⟩ := by
  induction h with
  | done a =>
    intro r
    refine ⟨fun b s hb => ?_, fun halt s hs => nomatch hs⟩
    cases hb
    rfl
  | stop halt l =>
    intro r
    refine ⟨fun a s hs => (nomatch hs), fun halt' s hs => ?_⟩
    cases hs
    exact ⟨[], List.nil_prefix, rfl⟩
  | @draw l sides k k' _ ih =>
    intro r
    rw [RollM.bind_apply, RollM.bind_apply]
    cases hface : die sides r.source with
    | error halt source =>
      obtain ⟨p, hp, hrec⟩ := hbooks.of_error hface
      rw [hrec]
      refine ⟨fun a s hs => (nomatch hs), fun halt' s hs => ?_⟩
      cases hs
      exact ⟨p, hp.trans ⟨l, rfl⟩, rfl⟩
    | ok face source =>
      rw [hbooks.of_ok hface]
      have hrest := ih face ⟨source, sides :: r.drawn⟩
      refine ⟨fun a s hs => ?_, fun halt s hs => ?_⟩
      · rw [List.reverse_cons, List.append_assoc]
        exact hrest.1 a s hs
      · obtain ⟨p, hp, hstop⟩ := hrest.2 halt s hs
        refine ⟨sides :: p, List.cons_prefix_cons.2 ⟨rfl, hp⟩, ?_⟩
        rw [List.reverse_cons, List.append_assoc]
        exact hstop

namespace Expr

/-- A roll that gets to its end has drawn its requests. -/
theorem roll_recorded_of_ok {die : Die σ} {e : Expr} {r : Recorded σ} {rolled : Rolled Int64} {s : σ}
    (h : e.roll (.ofDie die) r.source = .ok rolled s) :
    e.roll (.ofDie die.recorded) r = .ok rolled ⟨s, e.requests.reverse ++ r.drawn⟩ :=
  ((e.roll_inStep die die.recorded).booked die.keepsBooks_recorded r).1 rolled s h

/-- A roll that stops has drawn the first few of its requests. -/
theorem roll_recorded_of_error {die : Die σ} {e : Expr} {r : Recorded σ} {halt : Halt} {s : σ}
    (h : e.roll (.ofDie die) r.source = .error halt s) :
    ∃ p, p <+: e.requests ∧
      e.roll (.ofDie die.recorded) r = .error halt ⟨s, p.reverse ++ r.drawn⟩ :=
  ((e.roll_inStep die die.recorded).booked die.keepsBooks_recorded r).2 halt s h

end Expr

/-! ## Rolls, question by question -/

/-- The same die, noting down the sides whenever it is asked, whether or not it answers. -/
def Die.noted (die : Die σ) : Die (Recorded σ) := fun sides r =>
  match die sides r.source with
  | .ok face source => .ok face ⟨source, sides :: r.drawn⟩
  | .error halt source => .error halt ⟨source, sides :: r.drawn⟩

theorem Die.keepsBooks_noted (die : Die σ) : die.KeepsBooks die.noted where
  of_ok h := by unfold noted; rw [h]
  of_error h := ⟨_, List.prefix_refl _, by unfold noted; rw [h]; rfl⟩

/-- The sides that stand in a term: for dice with faces, those faces once for each repetition. -/
def Term.sides : Term → List UInt32
  | constant _ => []
  | dice d => if d.faces = 0 then [] else List.replicate d.repetitions.toNat d.faces

/-- The sides that stand in an expression, from left to right. -/
def Expr.sides (e : Expr) : List UInt32 := e.terms.flatMap fun t => t.term.sides

theorem Term.requests_eq_sides (t : Term) : t.requests = t.sides := by
  cases t with
  | constant value => rfl
  | dice d =>
    show List.replicate (if d.faces = 0 then 0 else d.repetitions.toNat) d.faces = _
    unfold Term.sides
    by_cases hf : d.faces = 0
    · simp [hf]
    · simp [hf]

theorem Expr.requests_eq_sides (e : Expr) : e.requests = e.sides := by
  simp only [requests, sides, Term.requests_eq_sides]

theorem Term.one_le_of_mem_sides {t : Term} {n : UInt32} (hn : n ∈ t.sides) : 1 ≤ n.toNat := by
  cases t with
  | constant value => exact absurd hn List.not_mem_nil
  | dice d =>
    rw [sides] at hn
    by_cases hf : d.faces = 0
    · rw [if_pos hf] at hn
      exact absurd hn List.not_mem_nil
    · rw [if_neg hf] at hn
      rw [List.eq_of_mem_replicate hn]
      exact Die.one_le_sides hf

namespace Expr

/-- **A roll asks for the sides that stand in its terms.** With any die and from any state, a roll
that gets to its end has asked for them, one after the other and for nothing else, and one that stops
has asked for the first few. Which sides these are has nothing to do with the faces that are shown;
there are as many of them as the expression has draws, and none of them is zero. -/
theorem roll_asks_sides (die : Die σ) (e : Expr) (s : σ) :
    (∀ rolled s', e.roll (.ofDie die) s = .ok rolled s' →
      e.roll (.ofDie die.noted) ⟨s, []⟩ = .ok rolled ⟨s', e.sides.reverse⟩) ∧
    (∀ halt s', e.roll (.ofDie die) s = .error halt s' →
      ∃ asked, asked <+: e.sides ∧
        e.roll (.ofDie die.noted) ⟨s, []⟩ = .error halt ⟨s', asked.reverse⟩) ∧
    e.sides.length = e.draws ∧ ∀ n ∈ e.sides, 1 ≤ n.toNat := by
  have hnoted := (e.roll_inStep die die.noted).booked die.keepsBooks_noted ⟨s, []⟩
  simp only [List.append_nil, e.requests_eq_sides] at hnoted
  refine ⟨hnoted.1, hnoted.2, ?_, ?_⟩
  · rw [← e.requests_eq_sides, e.length_requests]
  · intro n hn
    obtain ⟨t, -, hn⟩ := List.mem_flatMap.mp hn
    exact Term.one_le_of_mem_sides hn

end Expr

end Tabletop
