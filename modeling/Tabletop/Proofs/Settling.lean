import Mathlib.Data.List.Forall2
import Mathlib.Logic.Function.Iterate
import Tabletop.Random.Pick

/-!
# How draws settle

A draw takes words until one is accepted, and its value is what that word stands for (`Accepted`). If
none of as many words as the patience is accepted, it ends without a value (`Rejected`). Nothing else
can come of it, and this carries over to steps that make several draws: they make all of them, one
after the other (`Drawn`), or end at one that is not settled (`Stalled`).

`Settled` says of an outcome which of the two it is. The laws of this predicate follow the steps, so
that what is said of one draw (`firstAccepted_settled`) is said of a row of draws (`mapM_settled`).
-/

namespace Tabletop.Random

variable {σ : Type} {w : Nat}

/-- The state after some words. -/
def stateAfter (word : σ → BitVec w × σ) (n : Nat) (s : σ) : σ := (fun s => (word s).2)^[n] s

/-- The word behind some others. -/
def wordAfter (word : σ → BitVec w × σ) (n : Nat) (s : σ) : BitVec w := (word (stateAfter word n s)).1

/-- The first accepted word is among as many as the patience, and stands for the value. -/
def Accepted (word : σ → BitVec w × σ) (patience : Nat) (accept : BitVec w → Option (BitVec w))
    (s : σ) (v : BitVec w) (s' : σ) : Prop :=
  ∃ k, k < patience ∧ (∀ j, j < k → accept (wordAfter word j s) = none) ∧
    accept (wordAfter word k s) = some v ∧ s' = stateAfter word (k + 1) s

/-- As many words as the patience are all rejected. -/
def Rejected (word : σ → BitVec w × σ) (patience : Nat) (accept : BitVec w → Option (BitVec w))
    (s s' : σ) : Prop :=
  (∀ j, j < patience → accept (wordAfter word j s) = none) ∧ s' = stateAfter word patience s

/-- One draw after the other is settled, by one of the rules each. -/
inductive Drawn (word : σ → BitVec w × σ) (patience : Nat) :
    List (BitVec w → Option (BitVec w)) → σ → List (BitVec w) → σ → Prop where
  | nil {s : σ} : Drawn word patience [] s [] s
  | cons {accept : BitVec w → Option (BitVec w)} {rules : List (BitVec w → Option (BitVec w))}
    {s s₁ s₂ : σ} {v : BitVec w} {vs : List (BitVec w)} :
    Accepted word patience accept s v s₁ → Drawn word patience rules s₁ vs s₂ →
      Drawn word patience (accept :: rules) s (v :: vs) s₂

/-- Of draws by one of the rules each, one is not settled. -/
inductive Stalled (word : σ → BitVec w × σ) (patience : Nat) :
    List (BitVec w → Option (BitVec w)) → σ → σ → Prop where
  | here {accept : BitVec w → Option (BitVec w)} {rules : List (BitVec w → Option (BitVec w))}
    {s s' : σ} :
    Rejected word patience accept s s' → Stalled word patience (accept :: rules) s s'
  | later {accept : BitVec w → Option (BitVec w)} {rules : List (BitVec w → Option (BitVec w))}
    {s s₁ s₂ : σ} {v : BitVec w} :
    Accepted word patience accept s v s₁ → Stalled word patience rules s₁ s₂ →
      Stalled word patience (accept :: rules) s s₂

/-- An outcome is an answer of this kind, or the end of the patience in a state of that kind. -/
def Settled {α : Type} (answer : α → σ → Prop) (stuck : σ → Prop) :
    EStateM.Result Halt σ α → Prop
  | .ok a s => answer a s
  | .error halt s => halt = .unsettled ∧ stuck s

variable {α β : Type}

/-! ## Outcomes -/

namespace Settled

variable {answer answer₁ : α → σ → Prop} {answer' : β → σ → Prop} {stuck stuck' : σ → Prop}

theorem mono {out : EStateM.Result Halt σ α} (h : Settled answer stuck out)
    (hanswer : ∀ a s, answer a s → answer₁ a s) (hstuck : ∀ s, stuck s → stuck' s) :
    Settled answer₁ stuck' out := by
  cases out with
  | ok a s => exact hanswer a s h
  | error halt s => exact ⟨h.1, hstuck s h.2⟩

/-- The second step starts from an answer of the first. -/
theorem bind {x : RollM σ α} {f : α → RollM σ β} {s : σ} (h : Settled answer stuck (x s))
    (hstuck : ∀ s', stuck s' → stuck' s')
    (hf : ∀ a s', answer a s' → Settled answer' stuck' (f a s')) :
    Settled answer' stuck' ((x >>= f) s) := by
  rw [RollM.bind_apply]
  cases hx : x s with
  | ok a s' =>
    rw [hx] at h
    exact hf a s' h
  | error halt s' =>
    rw [hx] at h
    exact ⟨h.1, hstuck s' h.2⟩

end Settled

/-! ## One draw -/

section

variable {word : σ → BitVec w × σ} {patience : Nat} {accept : BitVec w → Option (BitVec w)}
  {s s' : σ} {v : BitVec w}

/-- The value of a draw is what some word stands for. -/
theorem Accepted.exists_word (h : Accepted word patience accept s v s') : ∃ x, accept x = some v := by
  obtain ⟨k, -, -, hv, -⟩ := h
  exact ⟨_, hv⟩

theorem Accepted.here (h : accept (word s).1 = some v) :
    Accepted word (patience + 1) accept s v (word s).2 :=
  ⟨0, Nat.succ_pos patience, fun j hj => absurd hj (Nat.not_lt_zero j), h, rfl⟩

theorem Accepted.later (h : accept (word s).1 = none)
    (hv : Accepted word patience accept (word s).2 v s') :
    Accepted word (patience + 1) accept s v s' := by
  obtain ⟨k, hk, hbefore, hv, hs'⟩ := hv
  refine ⟨k + 1, Nat.succ_lt_succ hk, fun j hj => ?_, hv, hs'⟩
  cases j with
  | zero => exact h
  | succ j => exact hbefore j (Nat.lt_of_succ_lt_succ hj)

theorem Rejected.later (h : accept (word s).1 = none)
    (hall : Rejected word patience accept (word s).2 s') :
    Rejected word (patience + 1) accept s s' := by
  obtain ⟨hall, hs'⟩ := hall
  refine ⟨fun j hj => ?_, hs'⟩
  cases j with
  | zero => exact h
  | succ j => exact hall j (Nat.lt_of_succ_lt_succ hj)

end

theorem firstAccepted_succ (word : σ → BitVec w × σ) (accept : BitVec w → Option (BitVec w))
    (patience : Nat) (s : σ) :
    firstAccepted word accept (patience + 1) s =
      match accept (word s).1 with
      | some v => .ok v (word s).2
      | none => firstAccepted word accept patience (word s).2 := rfl

/-- If the first word is accepted, no patience is needed. -/
theorem firstAccepted_of_accept {word : σ → BitVec w × σ} {accept : BitVec w → Option (BitVec w)}
    {s : σ} {v : BitVec w} (h : accept (word s).1 = some v) (patience : Nat) :
    firstAccepted word accept (patience + 1) s = .ok v (word s).2 := by
  rw [firstAccepted_succ, h]

/-- A draw is settled by the first accepted word, or not at all. -/
theorem firstAccepted_settled (word : σ → BitVec w × σ) (accept : BitVec w → Option (BitVec w)) :
    ∀ (patience : Nat) (s : σ),
      Settled (Accepted word patience accept s) (Rejected word patience accept s)
        (firstAccepted word accept patience s) := by
  intro patience
  induction patience with
  | zero =>
    intro s
    exact ⟨rfl, fun j hj => absurd hj (Nat.not_lt_zero j), rfl⟩
  | succ patience ih =>
    intro s
    rw [firstAccepted_succ]
    cases hword : accept (word s).1 with
    | some v => exact Accepted.here hword
    | none => exact (ih (word s).2).mono (fun v s' => .later hword) (fun s' => .later hword)

/-- A 32-bit number is the value of one draw. -/
theorem between_settled (zone : BitVec 32 → BitVec 32) (patience : Nat) (g : Generator σ)
    (low high : UInt32) (s : σ) :
    Settled
      (fun n s' => Accepted g.word32 patience (trial zone low.toBitVec high.toBitVec) s n.toBitVec s')
      (Rejected g.word32 patience (trial zone low.toBitVec high.toBitVec) s)
      (between zone patience g low high s) :=
  (firstAccepted_settled g.word32 _ patience s).bind (fun _ h => h) fun _ _ h => h

/-! ## Several draws -/

/-- A row of steps that each read off the value of one draw. -/
theorem mapM_settled {word : σ → BitVec w × σ} {patience : Nat}
    {rule : α → BitVec w → Option (BitVec w)} {read : BitVec w → β} {f : α → RollM σ β} :
    ∀ as : List α,
      (∀ a ∈ as, ∀ s, Settled (fun b s' => ∃ v, Accepted word patience (rule a) s v s' ∧ b = read v)
        (Rejected word patience (rule a) s) (f a s)) →
      ∀ s, Settled (fun bs s' => ∃ vs, Drawn word patience (as.map rule) s vs s' ∧ bs = vs.map read)
        (Stalled word patience (as.map rule) s) (as.mapM f s) := by
  intro as
  induction as with
  | nil => exact fun _ s => ⟨[], .nil, rfl⟩
  | cons a as ih =>
    intro hsteps s
    rw [List.mapM_cons, List.map_cons]
    refine (hsteps a List.mem_cons_self s).bind (fun s' => .here) ?_
    rintro b s₁ ⟨v, hv, rfl⟩
    refine (ih (fun a ha => hsteps a (List.mem_cons_of_mem _ ha)) s₁).bind (fun s' => .later hv) ?_
    rintro bs s₂ ⟨vs, hvs, rfl⟩
    exact ⟨v :: vs, .cons hv hvs, rfl⟩

/-- Each of the values is accepted by its rule. -/
theorem Drawn.forall₂ {word : σ → BitVec w × σ} {patience : Nat}
    {rules : List (BitVec w → Option (BitVec w))} {s s' : σ} {vs : List (BitVec w)}
    (h : Drawn word patience rules s vs s') :
    List.Forall₂ (fun accept v => ∃ x, accept x = some v) rules vs := by
  induction h with
  | nil => exact .nil
  | cons hv _ ih => exact .cons hv.exists_word ih

theorem Drawn.length_eq {word : σ → BitVec w × σ} {patience : Nat}
    {rules : List (BitVec w → Option (BitVec w))} {s s' : σ} {vs : List (BitVec w)}
    (h : Drawn word patience rules s vs s') : vs.length = rules.length :=
  h.forall₂.length_eq.symm

/-- A value of a draw is accepted by one of the rules. -/
theorem Drawn.accepts_of_mem {word : σ → BitVec w × σ} {patience : Nat}
    {rules : List (BitVec w → Option (BitVec w))} {s s' : σ} {vs : List (BitVec w)}
    (h : Drawn word patience rules s vs s') {v : BitVec w} (hv : v ∈ vs) :
    ∃ accept ∈ rules, ∃ x, accept x = some v := by
  induction h with
  | nil => cases hv
  | cons hfirst _ ih =>
    rcases List.mem_cons.1 hv with rfl | hv
    · exact ⟨_, List.mem_cons_self, hfirst.exists_word⟩
    · obtain ⟨accept, haccept, hx⟩ := ih hv
      exact ⟨accept, List.mem_cons_of_mem _ haccept, hx⟩

end Tabletop.Random
