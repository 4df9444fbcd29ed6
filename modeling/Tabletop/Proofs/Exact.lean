import Mathlib.Algebra.Order.Ring.Int
import Tabletop.Expr.Rolling

/-!
# Rolling against exact integers

What a roll would give if its sums knew no limit. A die that always shows a face (`Faces`) makes the
exact value of every term a function of the roller's state: the constant, or the sum of the faces of
all its throws. `exactSum` adds those values up, sign by sign and from left to right, and goes
through the states that a roll goes through as long as nothing overflows.

Three operations of a roll are checked: the sum of the faces of one term, the change of its sign and
the running total. `Overflows` states for one term, and the terms in front of it, that the exact
value of one of the three is out of range. The first term for which that happens is where the roll
stops (`foldlM_addTerm_of_overflows`), and if there is none, the roll gives the exact sum
(`foldlM_addTerm_of_fits`). Together:

> `roll_exact_until_overflow`: a roll stops exactly when the exact value of some checked operation is
> out of range, and gives the exact sum otherwise.

Which of the three it was shows in the state that is left: at a change of sign or an addition, all
dice of the term at fault have been thrown, and none behind it. Nothing is assumed of the state, so
it may hold a list of all throws.
-/

namespace Tabletop

open Checked (InRange)

variable {σ : Type}

/-- A die that always shows a face, whatever the sides and the state. -/
abbrev Faces (σ : Type) := UInt32 → σ → UInt32 × σ

namespace Faces

/-- The die with these faces. -/
def die (f : Faces σ) : Die σ := fun sides s => .ok (f sides s).1 (f sides s).2

/-- The roller that draws these faces one by one. -/
def roller (f : Faces σ) : Roller σ := .ofDie f.die

/-- The sum of the faces of several throws, and the state after the last one. -/
def throw (f : Faces σ) (sides : UInt32) : (times : Nat) → σ → Nat × σ
  | 0, s => (0, s)
  | times + 1, s =>
    let rest := f.throw sides times (f sides s).2
    ((f sides s).1.toNat + rest.1, rest.2)

theorem throw_succ (f : Faces σ) (sides : UInt32) (times : Nat) (s : σ) :
    f.throw sides (times + 1) s =
      ((f sides s).1.toNat + (f.throw sides times (f sides s).2).1,
        (f.throw sides times (f sides s).2).2) := rfl

end Faces

/-- The sum of the faces of all throws, and the state after the last one. -/
def Dice.exact (f : Faces σ) (d : Dice) (s : σ) : Nat × σ := f.throw d.faces d.draws s

/-- The value of a term, and the state after its last throw. -/
def Term.exact (f : Faces σ) : Term → σ → Int × σ
  | constant value, s => (value.toInt, s)
  | dice d, s => ((d.exact f s).1, (d.exact f s).2)

/-- An integer under a sign. -/
def Sign.exact : Sign → Int → Int
  | plus, n => n
  | minus, n => -n

/-- The value of a term under its sign, and the state after its last throw. -/
def SignedTerm.exact (f : Faces σ) (t : SignedTerm) (s : σ) : Int × σ :=
  (t.sign.exact (t.term.exact f s).1, (t.term.exact f s).2)

/-- The sum of signed terms, thrown from left to right, and the state after the last throw. -/
def exactSum (f : Faces σ) : List SignedTerm → σ → Int × σ
  | [], s => (0, s)
  | t :: ts, s =>
    let rest := exactSum f ts (t.exact f s).2
    ((t.exact f s).1 + rest.1, rest.2)

theorem exactSum_cons (f : Faces σ) (t : SignedTerm) (ts : List SignedTerm) (s : σ) :
    exactSum f (t :: ts) s =
      ((t.exact f s).1 + (exactSum f ts (t.exact f s).2).1, (exactSum f ts (t.exact f s).2).2) := rfl

/-! ## The faces of one term -/

/-- Adding a face is exact, or an overflow. -/
theorem add_face (total : Int64) (face : UInt32) :
    Checked.add total (Int64.ofNat face.toNat) =
      Checked.narrow .addOverflow (total.toInt + face.toNat) := by
  have hlt := face.toNat_lt
  have hface : (Int64.ofNat face.toNat).toInt = face.toNat := by
    rw [← Int64.ofInt_eq_ofNat]
    exact Checked.toInt_ofInt_of_inRange (Checked.inRange_natCast (by omega))
  rw [Checked.add, hface]

/-- A sum of faces draws one, adds it, and goes on unless the addition overflows. -/
theorem sumFaces_succ (f : Faces σ) (sides : UInt32) (times : Nat) (total : Int64) (s : σ) :
    sumFaces (f.die sides) (times + 1) total s =
      match Checked.narrow .addOverflow (total.toInt + (f sides s).1.toNat) with
      | .ok total => sumFaces (f.die sides) times total (f sides s).2
      | .error halt => .error halt (f sides s).2 := by
  rw [← add_face, sumFaces, RollM.bind_apply]
  show (RollM.ofExcept _ >>= _) _ = _
  rw [RollM.bind_apply]
  cases Checked.add total (Int64.ofNat (f sides s).1.toNat) <;> rfl

/-- Faces whose sum stays in range are summed exactly. -/
theorem sumFaces_of_inRange (f : Faces σ) (sides : UInt32) :
    ∀ (times : Nat) (total : Int64) (s : σ),
      InRange (total.toInt + (f.throw sides times s).1) →
        ∃ v, sumFaces (f.die sides) times total s = .ok v (f.throw sides times s).2 ∧
          v.toInt = total.toInt + (f.throw sides times s).1 := by
  intro times
  induction times with
  | zero =>
    intro total s _
    exact ⟨total, rfl, (Int.add_zero _).symm⟩
  | succ times ih =>
    intro total s h
    have hthrow : (f.throw sides (times + 1) s).1 =
        (f sides s).1.toNat + (f.throw sides times (f sides s).2).1 := rfl
    have hlo := (Checked.inRange_toInt total).1
    have hhi := h.2
    rw [hthrow] at h hhi ⊢
    rw [sumFaces_succ]
    -- faces only add, so a sum on the way is out of range only if the last one is
    cases hv : Checked.narrow .addOverflow (total.toInt + (f sides s).1.toNat) with
    | error halt =>
      obtain ⟨hout, -⟩ := Checked.narrow_eq_error_iff.1 hv
      exact absurd ⟨by omega, by omega⟩ hout
    | ok v =>
      have hvi := Checked.narrow_eq_ok_iff.1 hv
      have hsum : v.toInt + (f.throw sides times (f sides s).2).1 =
          total.toInt + ((f sides s).1.toNat + (f.throw sides times (f sides s).2).1 : Nat) := by
        omega
      rw [← hsum] at h ⊢
      exact ih v (f sides s).2 h

/-- Faces whose sum leaves the range stop the sum at one of them. -/
theorem sumFaces_of_not_inRange (f : Faces σ) (sides : UInt32) :
    ∀ (times : Nat) (total : Int64) (s : σ),
      ¬InRange (total.toInt + (f.throw sides times s).1) →
        ∃ k, k ≤ times ∧
          sumFaces (f.die sides) times total s = .error .addOverflow (f.throw sides k s).2 := by
  intro times
  induction times with
  | zero =>
    intro total s h
    refine absurd ?_ h
    rw [show total.toInt + ((f.throw sides 0 s).1 : Int) = total.toInt from Int.add_zero _]
    exact Checked.inRange_toInt total
  | succ times ih =>
    intro total s h
    rw [sumFaces_succ]
    cases hv : Checked.narrow .addOverflow (total.toInt + (f sides s).1.toNat) with
    | error halt =>
      obtain ⟨-, rfl⟩ := Checked.narrow_eq_error_iff.1 hv
      exact ⟨1, by omega, rfl⟩
    | ok v =>
      have hvi := Checked.narrow_eq_ok_iff.1 hv
      have hout : ¬InRange (v.toInt + (f.throw sides times (f sides s).2).1) := by
        rw [hvi, Int.add_assoc]
        exact h
      obtain ⟨k, hk, hstop⟩ := ih v (f sides s).2 hout
      exact ⟨k + 1, by omega, hstop⟩

theorem Dice.exact_of_faces_eq_zero (f : Faces σ) {d : Dice} (h : d.faces = 0) (s : σ) :
    d.exact f s = (0, s) := by
  rw [Dice.exact, Dice.draws, if_pos h]
  rfl

theorem Dice.exact_of_faces_ne_zero (f : Faces σ) {d : Dice} (h : d.faces ≠ 0) (s : σ) :
    d.exact f s = f.throw d.faces d.repetitions.toNat s := by
  rw [Dice.exact, Dice.draws, if_neg h]

/-- Dice are worth their exact sum if that is in range. -/
theorem Dice.resolve_of_inRange (f : Faces σ) {d : Dice} {s : σ} (h : InRange (d.exact f s).1) :
    ∃ v, d.resolve f.roller s = .ok v (d.exact f s).2 ∧ v.toInt = (d.exact f s).1 := by
  unfold Dice.resolve
  by_cases hf : d.faces = 0
  · rw [if_pos hf, Dice.exact_of_faces_eq_zero f hf]
    exact ⟨0, rfl, rfl⟩
  · rw [Dice.exact_of_faces_ne_zero f hf] at h ⊢
    rw [if_neg hf]
    have hz : (0 : Int64).toInt + ((f.throw d.faces d.repetitions.toNat s).1 : Int) =
        (f.throw d.faces d.repetitions.toNat s).1 := Int.zero_add _
    rw [← hz] at h ⊢
    exact sumFaces_of_inRange f d.faces _ 0 s h

/-- Dice whose exact sum is out of range stop the roll at one of their throws. -/
theorem Dice.resolve_of_not_inRange (f : Faces σ) {d : Dice} {s : σ}
    (h : ¬InRange (d.exact f s).1) :
    ∃ k, k ≤ d.draws ∧ d.resolve f.roller s = .error .addOverflow (f.throw d.faces k s).2 := by
  unfold Dice.resolve
  by_cases hf : d.faces = 0
  · rw [Dice.exact_of_faces_eq_zero f hf] at h
    exact absurd (show InRange 0 by decide) h
  · rw [Dice.exact_of_faces_ne_zero f hf] at h
    rw [if_neg hf, Dice.draws, if_neg hf]
    have hz : (0 : Int64).toInt + ((f.throw d.faces d.repetitions.toNat s).1 : Int) =
        (f.throw d.faces d.repetitions.toNat s).1 := Int.zero_add _
    rw [← hz] at h
    exact sumFaces_of_not_inRange f d.faces _ 0 s h

/-! ## One signed term -/

/-- A term is worth its exact value if that is in range. -/
theorem Term.resolve_of_inRange (f : Faces σ) {t : Term} {s : σ} (h : InRange (t.exact f s).1) :
    ∃ v, t.resolve f.roller s = .ok v (t.exact f s).2 ∧ v.toInt = (t.exact f s).1 := by
  cases t with
  | constant value => exact ⟨value, rfl, rfl⟩
  | dice d => exact Dice.resolve_of_inRange f h

/-- The exact value of a term is out of range only for dice, and then it is too large. -/
theorem Term.not_inRange_exact_iff (f : Faces σ) {t : Term} {s : σ} :
    ¬InRange (t.exact f s).1 ↔ ∃ d, t = dice d ∧ 2 ^ 63 - 1 < (d.exact f s).1 := by
  cases t with
  | constant value =>
    refine ⟨fun h => absurd (Checked.inRange_toInt value) h, fun ⟨d, hd, _⟩ => ?_⟩
    cases hd
  | dice d =>
    refine ⟨fun h => ⟨d, rfl, ?_⟩, fun ⟨d', hd, hlt⟩ hin => ?_⟩
    · by_cases hle : (d.exact f s).1 < 2 ^ 63
      · exact absurd (Checked.inRange_natCast hle) h
      · omega
    · cases hd
      have hhi : ((d.exact f s).1 : Int) < 2 ^ 63 := hin.2
      omega

/-- A sign applies exactly if the result is in range. -/
theorem Sign.apply_of_inRange {sign : Sign} {v : Int64} (h : InRange (sign.exact v.toInt)) :
    ∃ w, sign.apply v = .ok w ∧ w.toInt = sign.exact v.toInt := by
  cases sign with
  | plus => exact ⟨v, rfl, rfl⟩
  | minus =>
    exact ⟨Int64.ofInt (-v.toInt), if_pos h, Checked.toInt_ofInt_of_inRange h⟩

/-- Otherwise it is a minus, and stops the roll. -/
theorem Sign.apply_of_not_inRange {sign : Sign} {v : Int64} (h : ¬InRange (sign.exact v.toInt)) :
    sign.apply v = .error .negateOverflow := by
  cases sign with
  | plus => exact absurd (Checked.inRange_toInt v) h
  | minus => exact if_neg h

/-- Of the terms in range, the lowest constant under a minus is the only one that leaves it with its
sign. -/
theorem SignedTerm.not_inRange_exact_iff (f : Faces σ) {t : SignedTerm} {s : σ}
    (h : InRange (t.term.exact f s).1) :
    ¬InRange (t.exact f s).1 ↔ t.sign = .minus ∧ t.term = .constant Int64.minValue := by
  obtain ⟨sign, term⟩ := t
  cases sign with
  | plus => exact ⟨fun hout => absurd h hout, fun ⟨hs, _⟩ => (nomatch hs)⟩
  | minus =>
    cases term with
    | constant v =>
      have hlo := Int64.le_toInt v
      have hhi := Int64.toInt_lt v
      refine ⟨fun hout => ⟨rfl, ?_⟩, fun ⟨_, hv⟩ hin => ?_⟩
      · -- the range is larger below than above by this one number
        have hv : v.toInt = -2 ^ 63 := by
          by_cases hne : v.toInt = -2 ^ 63
          · exact hne
          · exact absurd (show InRange (-v.toInt) from ⟨by omega, by omega⟩) hout
        rw [← Int64.toInt_inj.mp (hv.trans Int64.toInt_minValue.symm)]
      · cases hv
        exact absurd (show InRange (-Int64.minValue.toInt) from hin) (by decide)
    | dice d =>
      refine ⟨fun hout => absurd ?_ hout, fun ⟨_, hd⟩ => (nomatch hd)⟩
      have hhi : ((d.exact f s).1 : Int) < 2 ^ 63 := h.2
      show InRange (-((d.exact f s).1 : Int))
      exact ⟨by omega, by omega⟩

/-! ## The running total -/

/-- Behind the terms `before`, added onto `start`, some checked operation of a term has an exact
value out of range: its own sum of faces, its change of sign, or its addition to the total. -/
def Overflows (f : Faces σ) (start : Int) (before : List SignedTerm) (t : SignedTerm) (s : σ) :
    Prop :=
  (∃ d, t.term = .dice d ∧ 2 ^ 63 - 1 < (d.exact f (exactSum f before s).2).1) ∨
    (t.sign = .minus ∧ t.term = .constant Int64.minValue) ∨
      ¬InRange (start + (exactSum f (before ++ [t]) s).1)

/-- How a roll that stops at a term stops, and the state it leaves. -/
inductive StopsAt (f : Faces σ) (start : Int) (before : List SignedTerm) (t : SignedTerm) (s : σ) :
    Halt → σ → Prop where
  /-- At one of the throws of the term, whose faces are too many to be summed. -/
  | throwing {d : Dice} {k : Nat} :
    t.term = .dice d → 2 ^ 63 - 1 < (d.exact f (exactSum f before s).2).1 → k ≤ d.draws →
      StopsAt f start before t s .addOverflow (f.throw d.faces k (exactSum f before s).2).2
  /-- At its change of sign, when all its dice are thrown. -/
  | negating :
    t.sign = .minus → t.term = .constant Int64.minValue →
      StopsAt f start before t s .negateOverflow (exactSum f (before ++ [t]) s).2
  /-- At its addition to the total, when all its dice are thrown. -/
  | adding :
    InRange (t.term.exact f (exactSum f before s).2).1 →
      ¬InRange (start + (exactSum f (before ++ [t]) s).1) →
        StopsAt f start before t s .addOverflow (exactSum f (before ++ [t]) s).2

theorem exactSum_singleton (f : Faces σ) (t : SignedTerm) (s : σ) :
    exactSum f [t] s = t.exact f s := by
  show ((t.exact f s).1 + 0, _) = _
  rw [Int.add_zero]
  rfl

/-- What overflows behind one term more overflows behind the others, from the total with that term. -/
theorem overflows_cons_iff (f : Faces σ) {start : Int} {u : SignedTerm} {before : List SignedTerm}
    {t : SignedTerm} {s : σ} :
    Overflows f start (u :: before) t s ↔
      Overflows f (start + (u.exact f s).1) before t (u.exact f s).2 := by
  have hsum : start + (exactSum f (u :: before ++ [t]) s).1 =
      start + (u.exact f s).1 + (exactSum f (before ++ [t]) (u.exact f s).2).1 :=
    (Int.add_assoc ..).symm
  unfold Overflows
  rw [hsum]
  rfl

/-- And a roll that stops there stops in the same way. -/
theorem StopsAt.cons {f : Faces σ} {start : Int} {u : SignedTerm} {before : List SignedTerm}
    {t : SignedTerm} {s : σ} {halt : Halt} {s' : σ}
    (h : StopsAt f (start + (u.exact f s).1) before t (u.exact f s).2 halt s') :
    StopsAt f start (u :: before) t s halt s' := by
  cases h with
  | throwing ht hlarge hk => exact .throwing ht hlarge hk
  | negating hs ht => exact .negating hs ht
  | adding hin hout =>
    refine .adding hin ?_
    rw [Int.add_assoc] at hout
    exact hout

/-- Nothing overflows at a term when its own value, its value under the sign and the total with it
are in range. -/
theorem overflows_nil_iff (f : Faces σ) {start : Int} {t : SignedTerm} {s : σ} :
    Overflows f start [] t s ↔
      ¬(InRange (t.term.exact f s).1 ∧ InRange (t.exact f s).1 ∧
        InRange (start + (t.exact f s).1)) := by
  have hlast : exactSum f ([] ++ [t]) s = t.exact f s := exactSum_singleton f t s
  unfold Overflows
  rw [hlast, ← Term.not_inRange_exact_iff]
  show ¬InRange (t.term.exact f s).1 ∨ _ ↔ _
  by_cases hterm : InRange (t.term.exact f s).1
  · rw [← SignedTerm.not_inRange_exact_iff f hterm, or_iff_right (not_not_intro hterm),
      and_iff_right hterm, Decidable.not_and_iff_not_or_not]
  · simp [hterm]

/-- Adding a term resolves it, changes its sign and adds it to the total, as far as that goes. -/
theorem addTerm_apply (r : Roller σ) (total : Int64) (t : SignedTerm) (s : σ) :
    Expr.addTerm r total t s =
      match t.term.resolve r s with
      | .error halt s' => .error halt s'
      | .ok v s' =>
        match t.sign.apply v with
        | .error halt => .error halt s'
        | .ok w =>
          match Checked.add total w with
          | .error halt => .error halt s'
          | .ok sum => .ok sum s' := by
  unfold Expr.addTerm SignedTerm.resolve
  rw [RollM.bind_apply, RollM.bind_apply]
  cases t.term.resolve r s with
  | error halt s' => rfl
  | ok v s' =>
    cases hs : t.sign.apply v with
    | error halt => simp only [hs]; rfl
    | ok w =>
      simp only [hs]
      show RollM.ofExcept (Checked.add total w) s' = _
      cases Checked.add total w <;> rfl

/-- A term at which nothing overflows is added exactly. -/
theorem addTerm_of_not_overflows (f : Faces σ) {t : SignedTerm} {total : Int64} {s : σ}
    (h : ¬Overflows f total.toInt [] t s) :
    ∃ v, Expr.addTerm f.roller total t s = .ok v (t.exact f s).2 ∧
      v.toInt = total.toInt + (t.exact f s).1 := by
  rw [overflows_nil_iff, Decidable.not_not] at h
  obtain ⟨hterm, hsigned, hsum⟩ := h
  obtain ⟨v, hv, hvi⟩ := Term.resolve_of_inRange f hterm
  have hsign : t.sign.exact v.toInt = (t.exact f s).1 := by
    rw [hvi]
    rfl
  rw [← hsign] at hsigned hsum ⊢
  obtain ⟨w, hw, hwi⟩ := Sign.apply_of_inRange hsigned
  rw [← hwi] at hsum ⊢
  have hadd : Checked.add total w = .ok (Int64.ofInt (total.toInt + w.toInt)) := if_pos hsum
  refine ⟨Int64.ofInt (total.toInt + w.toInt), ?_, Checked.toInt_ofInt_of_inRange hsum⟩
  rw [addTerm_apply, hv]
  simp only [hw, hadd]
  rfl

/-- A term at which something overflows stops the roll. -/
theorem addTerm_of_overflows (f : Faces σ) {t : SignedTerm} {total : Int64} {s : σ}
    (h : Overflows f total.toInt [] t s) :
    ∃ halt s', Expr.addTerm f.roller total t s = .error halt s' ∧
      StopsAt f total.toInt [] t s halt s' := by
  rw [addTerm_apply]
  by_cases hterm : InRange (t.term.exact f s).1
  · obtain ⟨v, hv, hvi⟩ := Term.resolve_of_inRange f hterm
    have hsign : t.sign.exact v.toInt = (t.exact f s).1 := by
      rw [hvi]
      rfl
    have hlast : t.exact f s = exactSum f ([] ++ [t]) s := (exactSum_singleton f t s).symm
    have hstate : (t.term.exact f s).2 = (exactSum f ([] ++ [t]) s).2 := by
      rw [← hlast]
      rfl
    rw [hv]
    by_cases hsigned : InRange (t.exact f s).1
    · -- the term fits with and without its sign, so what is out of range is the sum
      have hsum : ¬InRange (total.toInt + (t.exact f s).1) := by
        intro hin
        exact (overflows_nil_iff f).1 h ⟨hterm, hsigned, hin⟩
      rw [← hsign] at hsigned
      obtain ⟨w, hw, hwi⟩ := Sign.apply_of_inRange hsigned
      have hadd : Checked.add total w = .error .addOverflow := by
        refine if_neg ?_
        rw [hwi, hsign]
        exact hsum
      refine ⟨.addOverflow, (t.term.exact f s).2, ?_, ?_⟩
      · simp only [hw, hadd]
      · rw [hstate]
        refine .adding hterm ?_
        rw [← hlast]
        exact hsum
    · -- only under its sign does the term not fit
      obtain ⟨hs, ht⟩ := (SignedTerm.not_inRange_exact_iff f hterm).1 hsigned
      rw [← hsign] at hsigned
      refine ⟨.negateOverflow, (t.term.exact f s).2, ?_, ?_⟩
      · simp only [Sign.apply_of_not_inRange hsigned]
      · rw [hstate]
        exact .negating hs ht
  · -- the term does not fit by itself, so it is dice, and one of its throws is the last
    obtain ⟨d, hd, hlarge⟩ := (Term.not_inRange_exact_iff f).1 hterm
    have hout : ¬InRange (d.exact f s).1 := by
      rw [hd] at hterm
      exact hterm
    obtain ⟨k, hk, hstop⟩ := Dice.resolve_of_not_inRange f hout
    refine ⟨.addOverflow, (f.throw d.faces k s).2, ?_, .throwing hd hlarge hk⟩
    rw [hd]
    show (match d.resolve f.roller s with | .error halt s' => _ | .ok v s' => _) = _
    rw [hstop]

/-! ## The whole roll -/

/-- Terms at which nothing overflows are summed exactly. -/
theorem foldlM_addTerm_of_fits (f : Faces σ) :
    ∀ (ts : List SignedTerm) (total : Int64) (s : σ),
      (∀ before t after, ts = before ++ t :: after → ¬Overflows f total.toInt before t s) →
        ∃ v, ts.foldlM (Expr.addTerm f.roller) total s = .ok v (exactSum f ts s).2 ∧
          v.toInt = total.toInt + (exactSum f ts s).1 := by
  intro ts
  induction ts with
  | nil =>
    intro total s _
    exact ⟨total, rfl, (Int.add_zero _).symm⟩
  | cons u ts ih =>
    intro total s h
    obtain ⟨v, hv, hvi⟩ := addTerm_of_not_overflows f (h [] u ts rfl)
    -- what would overflow behind `u` from `v` on would overflow from `total` on as well
    have htail : ∀ before t after, ts = before ++ t :: after →
        ¬Overflows f v.toInt before t (u.exact f s).2 := by
      intro before t after hsplit hover
      refine h (u :: before) t after (by rw [hsplit]; rfl) ?_
      rw [overflows_cons_iff, ← hvi]
      exact hover
    obtain ⟨w, hw, hwi⟩ := ih v (u.exact f s).2 htail
    refine ⟨w, ?_, ?_⟩
    · rw [List.foldlM_cons, RollM.bind_apply, hv]
      exact hw
    · rw [hwi, hvi, Int.add_assoc]
      rfl

/-- Terms at one of which something overflows stop the roll at the first such term. -/
theorem foldlM_addTerm_of_overflows (f : Faces σ) :
    ∀ (ts : List SignedTerm) (total : Int64) (s : σ),
      (∃ before t after, ts = before ++ t :: after ∧ Overflows f total.toInt before t s) →
        ∃ before t after halt s', ts = before ++ t :: after ∧
          (∀ b u a, before = b ++ u :: a → ¬Overflows f total.toInt b u s) ∧
            ts.foldlM (Expr.addTerm f.roller) total s = .error halt s' ∧
              StopsAt f total.toInt before t s halt s' := by
  intro ts
  induction ts with
  | nil =>
    intro total s ⟨before, t, after, hsplit, _⟩
    exact absurd hsplit (by simp)
  | cons u ts ih =>
    intro total s ⟨before, t, after, hsplit, hover⟩
    -- either `u` is the first term to overflow, or the first one is among those behind it
    by_cases hfirst : Overflows f total.toInt [] u s
    · obtain ⟨halt, s', hstop, hat⟩ := addTerm_of_overflows f hfirst
      refine ⟨[], u, ts, halt, s', rfl, ?_, ?_, hat⟩
      · intro b u' a hb
        exact absurd hb (by simp)
      · rw [List.foldlM_cons, RollM.bind_apply, hstop]
    · obtain ⟨v, hv, hvi⟩ := addTerm_of_not_overflows f hfirst
      have htail : ∃ before t after, ts = before ++ t :: after ∧
          Overflows f v.toInt before t (u.exact f s).2 := by
        cases before with
        | nil =>
          obtain ⟨rfl, -⟩ := List.cons.inj hsplit
          exact absurd hover hfirst
        | cons b before =>
          obtain ⟨rfl, hts⟩ := List.cons.inj hsplit
          refine ⟨before, t, after, hts, ?_⟩
          rw [hvi, ← overflows_cons_iff]
          exact hover
      obtain ⟨before', t', after', halt, s', hts, hfit, hstop, hat⟩ :=
        ih v (u.exact f s).2 htail
      rw [hvi] at hfit hat
      refine ⟨u :: before', t', after', halt, s', by rw [hts]; rfl, ?_, ?_, hat.cons⟩
      · intro b w a hb
        cases b with
        | nil =>
          obtain ⟨rfl, -⟩ := List.cons.inj hb
          exact hfirst
        | cons c b =>
          obtain ⟨rfl, hb'⟩ := List.cons.inj hb
          rw [overflows_cons_iff]
          exact hfit b w a hb'
      · rw [List.foldlM_cons, RollM.bind_apply, hv]
        exact hstop

namespace Expr

/-- A roll is the running total over the terms, with the description as its log. -/
theorem roll_apply (r : Roller σ) (e : Expr) (s : σ) :
    e.roll r s =
      match e.terms.foldlM (addTerm r) 0 s with
      | .ok total s' => .ok ⟨total, e.description⟩ s'
      | .error halt s' => .error halt s' := by
  unfold roll total
  rw [RollM.bind_apply]
  cases e.terms.foldlM (addTerm r) 0 s with
  | ok total s' => rfl
  | error halt s' => rfl

/-- **A roll is exact until it overflows.** It stops exactly when, at some term, the sum of its
faces, its change of sign or the sum of the terms up to it has an exact value out of range. If that
happens nowhere, the result is the exact sum of all terms, and all dice have been thrown. If it does,
the roll stops at the first such term; and when it is the change of sign or the addition that fails,
it leaves the state behind all dice of the terms up to this one, itself included, and no more. -/
theorem roll_exact_until_overflow (f : Faces σ) (e : Expr) (s : σ) :
    ((∃ halt s', e.roll f.roller s = .error halt s') ↔
      ∃ before t after, e.terms = before ++ t :: after ∧ Overflows f 0 before t s) ∧
    ((¬∃ before t after, e.terms = before ++ t :: after ∧ Overflows f 0 before t s) →
      ∃ total : Int64, total.toInt = (exactSum f e.terms s).1 ∧
        e.roll f.roller s = .ok ⟨total, e.description⟩ (exactSum f e.terms s).2) ∧
    ∀ halt s', e.roll f.roller s = .error halt s' →
      ∃ before t after, e.terms = before ++ t :: after ∧
        (∀ b u a, before = b ++ u :: a → ¬Overflows f 0 b u s) ∧
          StopsAt f 0 before t s halt s' := by
  have hfits : (¬∃ before t after, e.terms = before ++ t :: after ∧ Overflows f 0 before t s) →
      ∃ total : Int64, total.toInt = (exactSum f e.terms s).1 ∧
        e.roll f.roller s = .ok ⟨total, e.description⟩ (exactSum f e.terms s).2 := by
    intro h
    obtain ⟨v, hv, hvi⟩ := foldlM_addTerm_of_fits f e.terms 0 s
      fun before t after hsplit hover => h ⟨before, t, after, hsplit, hover⟩
    refine ⟨v, hvi.trans (Int.zero_add _), ?_⟩
    rw [roll_apply, hv]
  have hstops : (∃ before t after, e.terms = before ++ t :: after ∧ Overflows f 0 before t s) →
      ∃ before t after halt s', e.terms = before ++ t :: after ∧
        (∀ b u a, before = b ++ u :: a → ¬Overflows f 0 b u s) ∧
          e.roll f.roller s = .error halt s' ∧ StopsAt f 0 before t s halt s' := by
    intro h
    obtain ⟨before, t, after, halt, s', hsplit, hfirst, hstop, hat⟩ :=
      foldlM_addTerm_of_overflows f e.terms 0 s h
    refine ⟨before, t, after, halt, s', hsplit, hfirst, ?_, hat⟩
    rw [roll_apply, hstop]
  -- a roll that stops cannot be one in which everything fits
  have hover : ∀ halt s', e.roll f.roller s = .error halt s' →
      ∃ before t after, e.terms = before ++ t :: after ∧ Overflows f 0 before t s := by
    intro halt s' hroll
    refine Classical.byContradiction fun hno => ?_
    obtain ⟨total, -, hok⟩ := hfits hno
    rw [hok] at hroll
    cases hroll
  refine ⟨⟨fun ⟨halt, s', hroll⟩ => hover halt s' hroll, fun h => ?_⟩, hfits, ?_⟩
  · obtain ⟨before, t, after, halt, s', -, -, hroll, -⟩ := hstops h
    exact ⟨halt, s', hroll⟩
  · intro halt s' hroll
    obtain ⟨before, t, after, halt', s'', hsplit, hfirst, hroll', hat⟩ :=
      hstops (hover halt s' hroll)
    rw [hroll] at hroll'
    cases hroll'
    exact ⟨before, t, after, hsplit, hfirst, hat⟩

end Expr

end Tabletop
