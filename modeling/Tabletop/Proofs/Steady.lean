import Tabletop.Proofs.Draws
import Tabletop.Proofs.Range

/-!
# Expressions with one result

An expression is *steady* if all dice that keep to their sides give the same result. As long as no
roll can overflow that is a matter of the ends of its range: there is one result exactly if the lowest
and the highest one are the same. No term can have less than its lowest value, so none makes up for
another one whose ends differ (`leastSum_eq_greatestSum_iff`), and the ends of a throw differ as soon
as one of its dice has a second face. Hence

> `Expr.steady_iff`: an expression is steady exactly if every die that it throws has one face.

`Expr.isConstant` asks for more, that no die is thrown at all. It is true of steady expressions only,
but not of all of them:

> `Expr.isConstant_misses_iff`: it differs from steadiness exactly on the expressions that throw dice,
> all of them with one face.
-/

namespace Tabletop

/-- Rolls with dice that keep to their sides get to their ends, all with one result. -/
def Expr.Steady (e : Expr) : Prop :=
  ∃ rolled : Rolled Int64, ∀ (σ : Type) (f : Faces σ) (s : σ), f.KeepsToSides →
    ∃ s', e.roll f.roller s = .ok rolled s'

/-! ## Ends that meet -/

theorem SignedTerm.least_le_greatest (t : SignedTerm) : t.least ≤ t.greatest := by
  obtain ⟨hlo, hhi⟩ := Faces.keepsToSides_dealt.signedTerm_mem t []
  exact Int.le_trans hlo hhi

theorem leastSum_le_greatestSum (ts : List SignedTerm) : leastSum ts ≤ greatestSum ts := by
  obtain ⟨hlo, hhi⟩ := Faces.keepsToSides_dealt.exactSum_mem ts []
  exact Int.le_trans hlo hhi

/-- The ends of a sum meet exactly if those of every term do. -/
theorem leastSum_eq_greatestSum_iff (ts : List SignedTerm) :
    leastSum ts = greatestSum ts ↔ ∀ t ∈ ts, t.least = t.greatest := by
  induction ts with
  | nil => exact ⟨fun _ t ht => absurd ht List.not_mem_nil, fun _ => rfl⟩
  | cons t ts ih =>
    have hterm := t.least_le_greatest
    have hrest := leastSum_le_greatestSum ts
    rw [leastSum_cons, greatestSum_cons, List.forall_mem_cons, ← ih]
    omega

/-- The ends of a throw meet exactly if each of its dice has one face. -/
theorem Dice.least_eq_greatest_iff (d : Dice) :
    d.least = d.greatest ↔ ∀ n ∈ (Term.dice d).sides, n = 1 := by
  show d.least = d.greatest ↔
    ∀ n ∈ if d.faces = 0 then [] else List.replicate d.repetitions.toNat d.faces, n = 1
  unfold least greatest
  by_cases hfaces : d.faces = 0
  · simp [hfaces]
  · have hone : d.faces.toNat = 1 ↔ d.faces = 1 := UInt32.toNat_inj (b := 1)
    rw [if_neg hfaces, if_neg hfaces, if_neg hfaces, List.forall_mem_replicate, eq_comm,
      mul_right_eq_self₀, hone, or_comm]

theorem SignedTerm.least_eq_greatest_iff (t : SignedTerm) :
    t.least = t.greatest ↔ ∀ n ∈ t.term.sides, n = 1 := by
  have hterm : t.term.least = t.term.greatest ↔ ∀ n ∈ t.term.sides, n = 1 := by
    cases t.term with
    | constant value => exact ⟨fun _ n hn => absurd hn List.not_mem_nil, fun _ => rfl⟩
    | dice d => exact Int.ofNat_inj.trans d.least_eq_greatest_iff
  rw [← hterm]
  obtain ⟨sign, term⟩ := t
  cases sign with
  | plus => exact Iff.rfl
  | minus => exact Int.neg_inj.trans eq_comm

namespace Expr

theorem least_eq_greatest_iff (e : Expr) : e.least = e.greatest ↔ ∀ n ∈ e.sides, n = 1 := by
  unfold least greatest sides
  rw [leastSum_eq_greatestSum_iff]
  simp only [SignedTerm.least_eq_greatest_iff, List.mem_flatMap]
  exact ⟨fun h n ⟨t, ht, hn⟩ => h t ht n hn, fun h t ht n hn => h n ⟨t, ht, hn⟩⟩

/-! ## One result -/

/-- **One face, one result.** As long as no roll can overflow, an expression gives the same result
with all dice that keep to their sides exactly if every die that it throws has one face. -/
theorem steady_iff {e : Expr} (h : e.constantReach + e.diceReach ≤ 2 ^ 63 - 1) :
    e.Steady ↔ ∀ n ∈ e.sides, n = 1 := by
  have hends : e.least ≤ e.greatest := leastSum_le_greatestSum e.terms
  rw [← e.least_eq_greatest_iff]
  refine ⟨fun ⟨rolled, hsteady⟩ => ?_, fun hmeet => ?_⟩
  · have hresult : ∀ n, e.least ≤ n → n ≤ e.greatest → rolled.result.toInt = n := by
      intro n hlo hhi
      obtain ⟨faces, rolled', s, hroll, hn⟩ := exists_roll_dealt h hlo hhi
      obtain ⟨s', hsame⟩ := hsteady _ Faces.dealt faces Faces.keepsToSides_dealt
      rw [hroll] at hsame
      cases hsame
      exact hn
    rw [← hresult e.least (Int.le_refl _) hends, ← hresult e.greatest hends (Int.le_refl _)]
  · refine ⟨⟨Int64.ofInt e.least, e.description⟩, fun σ f s hf => ?_⟩
    obtain ⟨total, htotal, hroll⟩ := roll_of_keepsToSides h hf s
    have hmem : e.least ≤ total.toInt ∧ total.toInt ≤ e.greatest := by
      rw [htotal]
      exact hf.exactSum_mem e.terms s
    have hleast : e.least = total.toInt := by omega
    rw [hleast, Int64.ofInt_toInt]
    exact ⟨_, hroll⟩

/-! ## Constant expressions -/

/-- An expression is called constant exactly if it throws no die. -/
theorem isConstant_iff (e : Expr) : e.isConstant = true ↔ e.sides = [] := by
  show (e.draws == 0) = true ↔ _
  rw [beq_iff_eq, ← e.length_requests, e.requests_eq_sides, List.length_eq_zero_iff]

/-- **What is called constant, and what is.** As long as no roll can overflow, an expression that is
called constant gives the same result with all dice that keep to their sides. There are others that
do so and are not called constant, and these are the expressions that throw dice, all of them with
one face. -/
theorem isConstant_misses_iff {e : Expr} (h : e.constantReach + e.diceReach ≤ 2 ^ 63 - 1) :
    (e.isConstant = true → e.Steady) ∧
      (¬(e.isConstant = true ↔ e.Steady) ↔ e.sides ≠ [] ∧ ∀ n ∈ e.sides, n = 1) := by
  rw [steady_iff h, isConstant_iff]
  have hnone : e.sides = [] → ∀ n ∈ e.sides, n = 1 := by
    intro hsides n hn
    rw [hsides] at hn
    exact absurd hn List.not_mem_nil
  refine ⟨hnone, fun hdiffer => ?_, fun ⟨hthrown, hone⟩ hiff => hthrown (hiff.2 hone)⟩
  have hthrown : e.sides ≠ [] := fun hsides => hdiffer ⟨hnone, fun _ => hsides⟩
  refine ⟨hthrown, ?_⟩
  by_contra hmany
  exact hdiffer ⟨fun hsides => absurd hsides hthrown, fun hone => absurd hone hmany⟩

/-- Three dice with one face and a constant: the result is always two. -/
theorem isConstant_misses_one_faced :
    let e : Expr := ⟨[.plus (.dice ⟨3, 1⟩), ⟨.minus, .constant 1⟩, .plus (.dice ⟨0, 6⟩)]⟩
    e.constantReach + e.diceReach ≤ 2 ^ 63 - 1 ∧ ¬(e.isConstant = true ↔ e.Steady) := by
  intro e
  have hfour : e.constantReach + e.diceReach = 4 := rfl
  have hreach : e.constantReach + e.diceReach ≤ 2 ^ 63 - 1 := by omega
  have hsides : e.sides = List.replicate 3 1 := rfl
  have hone : ∀ n ∈ e.sides, n = 1 := fun n hn => List.eq_of_mem_replicate (hsides ▸ hn)
  exact ⟨hreach, (isConstant_misses_iff hreach).2.2 ⟨List.cons_ne_nil _ _, hone⟩⟩

/-- So constancy and steadiness are not the same, and a single die with one face shows it. -/
theorem not_forall_isConstant_iff_steady :
    ¬∀ e : Expr, e.constantReach + e.diceReach ≤ 2 ^ 63 - 1 →
      (e.isConstant = true ↔ e.Steady) := by
  intro hall
  have hone : (ofDice ⟨1, 1⟩).constantReach + (ofDice ⟨1, 1⟩).diceReach = 1 := rfl
  have hreach : (ofDice ⟨1, 1⟩).constantReach + (ofDice ⟨1, 1⟩).diceReach ≤ 2 ^ 63 - 1 := by omega
  have hsteady : (ofDice ⟨1, 1⟩).Steady :=
    (steady_iff hreach).2 fun n hn => List.mem_singleton.1 hn
  have hconstant : (ofDice ⟨1, 1⟩).isConstant = false := rfl
  have hcalled := (hall _ hreach).2 hsteady
  rw [hconstant] at hcalled
  cases hcalled

end Expr

end Tabletop
