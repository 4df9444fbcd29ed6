import Tabletop.Proofs.Reach

/-!
# The range of an expression

What a roll can give when its dice keep to their sides (`Faces.KeepsToSides`). The lowest and the
highest value of a term can be read off it: a constant has one value, dice show at least a one and at
most their highest face each, and under a minus the two change places. Their sums over the terms are
the ends of an interval (`Expr.least`, `Expr.greatest`), and

> `Expr.attainable_iff`: as long as no roll can overflow, the results that can be rolled are the
> integers of this interval, all of them and no others.

That no result is outside is an induction over throws and terms, in which both ends grow by the ends
of what is added (`Faces.KeepsToSides.exactSum_mem`). That none is missing needs dice for every
result. They are dealt from a list (`Faces.dealt`), which is made up from the front: of a sum that is
to be reached, the first throw, or the first term, takes as much as the others cannot
(`exists_deal_throw`, `exists_deal_exactSum`). What is dealt to the terms behind it is the rest of the
list, so every step is stated for any rest. What is said of sums in this way holds of rolls as well
(`Expr.exists_roll_dealt`).
-/

namespace Tabletop

variable {σ : Type}

/-! ## Dice that keep to their sides -/

/-- A die with sides shows one of its faces. -/
def Faces.KeepsToSides (f : Faces σ) : Prop :=
  ∀ sides s, sides ≠ 0 → 1 ≤ (f sides s).1.toNat ∧ (f sides s).1.toNat ≤ sides.toNat

/-- The highest face that a die which keeps to its sides can show; without sides, it is any. -/
def highestFace (sides : UInt32) : Nat := if sides = 0 then 2 ^ 32 - 1 else sides.toNat

theorem Faces.KeepsToSides.atMost {f : Faces σ} (hf : f.KeepsToSides) : f.AtMost highestFace := by
  intro sides s
  unfold highestFace
  split
  · exact f.atMost_highest sides s
  next hsides => exact (hf sides s hsides).2

/-- How many faces the dice of a term have together. -/
def Term.diceReach : Term → Nat
  | constant _ => 0
  | dice d => d.repetitions.toNat * d.faces.toNat

/-- How many faces all dice have together. -/
def Expr.diceReach (e : Expr) : Nat := (e.terms.map fun t => t.term.diceReach).sum

theorem Term.reach_highestFace (t : Term) :
    t.reach highestFace = t.constantReach + t.diceReach := by
  cases t with
  | constant value => rfl
  | dice d =>
    show d.draws * highestFace d.faces = 0 + d.repetitions.toNat * d.faces.toNat
    unfold Dice.draws highestFace
    split
    next hfaces => simp [hfaces]
    next => rw [Nat.zero_add]

/-- For dice that keep to their sides, the reach is that of the constants and of all faces. -/
theorem Expr.reach_highestFace (e : Expr) :
    e.reach highestFace = e.constantReach + e.diceReach := by
  unfold reach reachSum constantReach diceReach
  induction e.terms with
  | nil => rfl
  | cons t ts ih =>
    simp only [List.map_cons, List.sum_cons, t.term.reach_highestFace]
    omega

/-! ## The ends of the range -/

namespace Dice

/-- The lowest value of a throw: a one with each of the dice. -/
def least (d : Dice) : Nat := if d.faces = 0 then 0 else d.repetitions.toNat

/-- The highest value of a throw: the highest face with each of the dice. -/
def greatest (d : Dice) : Nat := if d.faces = 0 then 0 else d.repetitions.toNat * d.faces.toNat

end Dice

namespace Term

/-- The lowest value of a term. -/
def least : Term → Int
  | constant value => value.toInt
  | dice d => d.least

/-- The highest value of a term. -/
def greatest : Term → Int
  | constant value => value.toInt
  | dice d => d.greatest

end Term

namespace SignedTerm

/-- The lowest value of a term under its sign. -/
def least (t : SignedTerm) : Int :=
  match t.sign with
  | .plus => t.term.least
  | .minus => -t.term.greatest

/-- The highest value of a term under its sign. -/
def greatest (t : SignedTerm) : Int :=
  match t.sign with
  | .plus => t.term.greatest
  | .minus => -t.term.least

end SignedTerm

/-- The sum of the lowest values. -/
def leastSum (ts : List SignedTerm) : Int := (ts.map SignedTerm.least).sum

/-- The sum of the highest values. -/
def greatestSum (ts : List SignedTerm) : Int := (ts.map SignedTerm.greatest).sum

/-- The lowest result of a roll. -/
def Expr.least (e : Expr) : Int := leastSum e.terms

/-- The highest result of a roll. -/
def Expr.greatest (e : Expr) : Int := greatestSum e.terms

theorem leastSum_cons (t : SignedTerm) (ts : List SignedTerm) :
    leastSum (t :: ts) = t.least + leastSum ts := rfl

theorem greatestSum_cons (t : SignedTerm) (ts : List SignedTerm) :
    greatestSum (t :: ts) = t.greatest + greatestSum ts := rfl

/-! ## No result is outside -/

namespace Faces.KeepsToSides

variable {f : Faces σ}

theorem throw_mem (hf : f.KeepsToSides) {sides : UInt32} (hsides : sides ≠ 0) :
    ∀ (times : Nat) (s : σ),
      times ≤ (f.throw sides times s).1 ∧ (f.throw sides times s).1 ≤ times * sides.toNat := by
  intro times
  induction times with
  | zero => intro s; exact ⟨Nat.le_refl 0, Nat.zero_le _⟩
  | succ times ih =>
    intro s
    obtain ⟨hlo, hhi⟩ := hf sides s hsides
    obtain ⟨hlo', hhi'⟩ := ih (f sides s).2
    have hthrow : (f.throw sides (times + 1) s).1 =
        (f sides s).1.toNat + (f.throw sides times (f sides s).2).1 := rfl
    have hmul : (times + 1) * sides.toNat = times * sides.toNat + sides.toNat :=
      Nat.succ_mul times sides.toNat
    omega

theorem dice_mem (hf : f.KeepsToSides) (d : Dice) (s : σ) :
    d.least ≤ (d.exact f s).1 ∧ (d.exact f s).1 ≤ d.greatest := by
  unfold Dice.least Dice.greatest
  by_cases hfaces : d.faces = 0
  · rw [if_pos hfaces, if_pos hfaces, Dice.exact_of_faces_eq_zero f hfaces]
    exact ⟨Nat.le_refl 0, Nat.le_refl 0⟩
  · rw [if_neg hfaces, if_neg hfaces, Dice.exact_of_faces_ne_zero f hfaces]
    exact hf.throw_mem hfaces d.repetitions.toNat s

theorem term_mem (hf : f.KeepsToSides) (t : Term) (s : σ) :
    t.least ≤ (t.exact f s).1 ∧ (t.exact f s).1 ≤ t.greatest := by
  cases t with
  | constant value => exact ⟨Int.le_refl _, Int.le_refl _⟩
  | dice d =>
    obtain ⟨hlo, hhi⟩ := hf.dice_mem d s
    exact ⟨Int.ofNat_le.mpr hlo, Int.ofNat_le.mpr hhi⟩

theorem signedTerm_mem (hf : f.KeepsToSides) (t : SignedTerm) (s : σ) :
    t.least ≤ (t.exact f s).1 ∧ (t.exact f s).1 ≤ t.greatest := by
  obtain ⟨sign, term⟩ := t
  have hterm := hf.term_mem term s
  cases sign with
  | plus => exact hterm
  | minus => exact ⟨Int.neg_le_neg hterm.2, Int.neg_le_neg hterm.1⟩

/-- The exact sum of signed terms is between the sums of their lowest and their highest values. -/
theorem exactSum_mem (hf : f.KeepsToSides) :
    ∀ (ts : List SignedTerm) (s : σ),
      leastSum ts ≤ (exactSum f ts s).1 ∧ (exactSum f ts s).1 ≤ greatestSum ts := by
  intro ts
  induction ts with
  | nil => intro s; exact ⟨Int.le_refl 0, Int.le_refl 0⟩
  | cons t ts ih =>
    intro s
    obtain ⟨hlo, hhi⟩ := hf.signedTerm_mem t s
    obtain ⟨hlo', hhi'⟩ := ih (t.exact f s).2
    have hsum : (exactSum f (t :: ts) s).1 =
        (t.exact f s).1 + (exactSum f ts (t.exact f s).2).1 := rfl
    rw [leastSum_cons, greatestSum_cons, hsum]
    omega

end Faces.KeepsToSides

/-! ## No result is missing -/

/-- Faces from a list. One that the die does not have is dealt as a one, and so is every face behind
the end of the list. -/
def Faces.dealt : Faces (List UInt32) := fun sides faces =>
  match faces with
  | [] => (1, [])
  | face :: rest => (if 1 ≤ face ∧ face ≤ sides then face else 1, rest)

theorem Faces.keepsToSides_dealt : dealt.KeepsToSides := by
  intro sides faces hsides
  have hpos : 1 ≤ sides.toNat := Die.one_le_sides hsides
  match faces with
  | [] => exact ⟨Nat.le_refl 1, hpos⟩
  | face :: rest =>
    unfold dealt
    dsimp only
    split
    next hface => exact hface
    next => exact ⟨Nat.le_refl 1, hpos⟩

/-- A face that the die has is dealt as it is. -/
theorem Faces.dealt_cons (sides : UInt32) (face : Nat) (hlo : 1 ≤ face) (hhi : face ≤ sides.toNat)
    (rest : List UInt32) :
    dealt sides (UInt32.ofNat face :: rest) = (UInt32.ofNat face, rest) ∧
      (UInt32.ofNat face).toNat = face := by
  have hface : (UInt32.ofNat face).toNat = face :=
    UInt32.toNat_ofNat_of_lt' (Nat.lt_of_le_of_lt hhi sides.toNat_lt)
  have hin : 1 ≤ UInt32.ofNat face ∧ UInt32.ofNat face ≤ sides := by
    rw [UInt32.le_iff_toNat_le, UInt32.le_iff_toNat_le, hface]
    exact ⟨hlo, hhi⟩
  refine ⟨?_, hface⟩
  show (if 1 ≤ UInt32.ofNat face ∧ UInt32.ofNat face ≤ sides then UInt32.ofNat face else 1, rest) = _
  rw [if_pos hin]

/-- Every sum that throws of dice with sides can have is dealt. -/
theorem exists_deal_throw (sides : UInt32) :
    ∀ (times k : Nat), times ≤ k → k ≤ times * sides.toNat →
      ∃ faces, ∀ rest, Faces.dealt.throw sides times (faces ++ rest) = (k, rest) := by
  intro times
  induction times with
  | zero =>
    intro k hlo hhi
    have hk : k = 0 := by omega
    rw [hk]
    exact ⟨[], fun rest => rfl⟩
  | succ times ih =>
    intro k hlo hhi
    have hmul : (times + 1) * sides.toNat = times * sides.toNat + sides.toNat :=
      Nat.succ_mul times sides.toNat
    have hpos : 1 ≤ sides.toNat := by
      have hk : 0 < (times + 1) * sides.toNat := by omega
      exact Nat.pos_of_mul_pos_left hk
    have htimes : times ≤ times * sides.toNat := Nat.le_mul_of_pos_right times hpos
    -- the first throw takes what the others cannot, and a one if they can do it all
    obtain ⟨face, hface⟩ : ∃ face, face = max 1 (k - times * sides.toNat) := ⟨_, rfl⟩
    obtain ⟨faces, hfaces⟩ := ih (k - face) (by omega) (by omega)
    refine ⟨UInt32.ofNat face :: faces, fun rest => ?_⟩
    obtain ⟨hdealt, hvalue⟩ :=
      Faces.dealt_cons sides face (by omega) (by omega) (faces ++ rest)
    rw [List.cons_append, Faces.throw_succ, hdealt, hfaces, hvalue]
    exact Prod.ext (Nat.add_sub_cancel' (by omega)) rfl

theorem exists_deal_dice (d : Dice) {k : Nat} (hlo : d.least ≤ k) (hhi : k ≤ d.greatest) :
    ∃ faces, ∀ rest, d.exact Faces.dealt (faces ++ rest) = (k, rest) := by
  unfold Dice.least at hlo
  unfold Dice.greatest at hhi
  by_cases hfaces : d.faces = 0
  · rw [if_pos hfaces] at hlo hhi
    have hk : k = 0 := Nat.le_antisymm hhi hlo
    refine ⟨[], fun rest => ?_⟩
    rw [Dice.exact_of_faces_eq_zero _ hfaces, hk]
    rfl
  · rw [if_neg hfaces] at hlo hhi
    obtain ⟨faces, hdeal⟩ := exists_deal_throw d.faces d.repetitions.toNat k hlo hhi
    refine ⟨faces, fun rest => ?_⟩
    rw [Dice.exact_of_faces_ne_zero _ hfaces, hdeal]

theorem exists_deal_term (t : Term) {n : Int} (hlo : t.least ≤ n) (hhi : n ≤ t.greatest) :
    ∃ faces, ∀ rest, t.exact Faces.dealt (faces ++ rest) = (n, rest) := by
  cases t with
  | constant value =>
    have hn : n = value.toInt := Int.le_antisymm hhi hlo
    rw [hn]
    exact ⟨[], fun rest => rfl⟩
  | dice d =>
    have hlo' : (d.least : Int) ≤ n := hlo
    have hhi' : n ≤ (d.greatest : Int) := hhi
    obtain ⟨k, rfl⟩ := Int.eq_ofNat_of_zero_le (a := n) (by omega)
    obtain ⟨faces, hdeal⟩ := exists_deal_dice d (Int.ofNat_le.mp hlo') (Int.ofNat_le.mp hhi')
    refine ⟨faces, fun rest => ?_⟩
    show (((d.exact Faces.dealt (faces ++ rest)).1 : Int),
      (d.exact Faces.dealt (faces ++ rest)).2) = _
    rw [hdeal]

theorem exists_deal_signedTerm (t : SignedTerm) {n : Int} (hlo : t.least ≤ n)
    (hhi : n ≤ t.greatest) :
    ∃ faces, ∀ rest, t.exact Faces.dealt (faces ++ rest) = (n, rest) := by
  obtain ⟨sign, term⟩ := t
  cases sign with
  | plus => exact exists_deal_term term hlo hhi
  | minus =>
    have hlo' : -term.greatest ≤ n := hlo
    have hhi' : n ≤ -term.least := hhi
    obtain ⟨faces, hdeal⟩ := exists_deal_term term (n := -n) (by omega) (by omega)
    refine ⟨faces, fun rest => ?_⟩
    show (-(term.exact Faces.dealt (faces ++ rest)).1, (term.exact Faces.dealt (faces ++ rest)).2) = _
    rw [hdeal, Int.neg_neg]

/-- Every sum that signed terms can have is dealt. -/
theorem exists_deal_exactSum :
    ∀ (ts : List SignedTerm) (n : Int), leastSum ts ≤ n → n ≤ greatestSum ts →
      ∃ faces, ∀ rest, exactSum Faces.dealt ts (faces ++ rest) = (n, rest) := by
  intro ts
  induction ts with
  | nil =>
    intro n hlo hhi
    have hn : n = 0 := Int.le_antisymm hhi hlo
    rw [hn]
    exact ⟨[], fun rest => rfl⟩
  | cons t ts ih =>
    intro n hlo hhi
    rw [leastSum_cons] at hlo
    rw [greatestSum_cons] at hhi
    -- the ends are in order, since there are dice whose sum is between them
    obtain ⟨hlo₁, hhi₁⟩ := Faces.keepsToSides_dealt.signedTerm_mem t []
    obtain ⟨hlo₂, hhi₂⟩ := Faces.keepsToSides_dealt.exactSum_mem ts []
    -- the first term takes what the others cannot, and its lowest value if they can do it all
    obtain ⟨m, hm⟩ : ∃ m, m = max t.least (n - greatestSum ts) := ⟨_, rfl⟩
    obtain ⟨first, hfirst⟩ := exists_deal_signedTerm t (n := m) (by omega) (by omega)
    obtain ⟨others, hothers⟩ := ih (n - m) (by omega) (by omega)
    refine ⟨first ++ others, fun rest => ?_⟩
    rw [List.append_assoc, exactSum_cons, hfirst, hothers]
    exact Prod.ext (add_sub_cancel m n) rfl

/-! ## Results -/

namespace Expr

/-- The integer is the result of a roll with some dice that keep to their sides. -/
def Attainable (e : Expr) (n : Int) : Prop :=
  ∃ (σ : Type) (f : Faces σ) (s s' : σ) (rolled : Rolled Int64),
    f.KeepsToSides ∧ e.roll f.roller s = .ok rolled s' ∧ rolled.result.toInt = n

/-- Without overflow, a roll with dice that keep to their sides gets to its end. -/
theorem roll_of_keepsToSides {e : Expr} (h : e.constantReach + e.diceReach ≤ 2 ^ 63 - 1)
    {f : Faces σ} (hf : f.KeepsToSides) (s : σ) :
    ∃ total : Int64, total.toInt = (exactSum f e.terms s).1 ∧
      e.roll f.roller s = .ok ⟨total, e.description⟩ (exactSum f e.terms s).2 := by
  refine roll_of_reach_le hf.atMost ?_ s
  rw [e.reach_highestFace]
  exact h

/-- Every result between the ends is rolled by some of the dice that keep to their sides. -/
theorem exists_roll_dealt {e : Expr} (h : e.constantReach + e.diceReach ≤ 2 ^ 63 - 1) {n : Int}
    (hlo : e.least ≤ n) (hhi : n ≤ e.greatest) :
    ∃ (faces : List UInt32) (rolled : Rolled Int64) (s : List UInt32),
      e.roll Faces.dealt.roller faces = .ok rolled s ∧ rolled.result.toInt = n := by
  obtain ⟨faces, hdeal⟩ := exists_deal_exactSum e.terms n hlo hhi
  have hsum := hdeal []
  rw [List.append_nil] at hsum
  obtain ⟨total, htotal, hroll⟩ := roll_of_keepsToSides h Faces.keepsToSides_dealt faces
  rw [hsum] at htotal
  exact ⟨faces, _, _, hroll, htotal⟩

/-- **The attainable results are an interval.** If the absolute values of the constants and the faces
of all dice are together within the range, then every roll with dice that keep to their sides gets to
its end; its result is between the sums of the lowest and of the highest values of the terms, and
each integer between them is the result of some such roll. -/
theorem attainable_iff {e : Expr} (h : e.constantReach + e.diceReach ≤ 2 ^ 63 - 1) :
    (∀ (σ : Type) (f : Faces σ) (s : σ), f.KeepsToSides →
      ∃ rolled s', e.roll f.roller s = .ok rolled s') ∧
    ∀ n, e.Attainable n ↔ e.least ≤ n ∧ n ≤ e.greatest := by
  refine ⟨fun σ f s hf => ?_, fun n => ⟨?_, ?_⟩⟩
  · obtain ⟨total, -, hroll⟩ := roll_of_keepsToSides h hf s
    exact ⟨_, _, hroll⟩
  · rintro ⟨σ, f, s, s', rolled, hf, hroll, rfl⟩
    obtain ⟨total, htotal, hexact⟩ := roll_of_keepsToSides h hf s
    rw [hroll] at hexact
    cases hexact
    rw [htotal]
    exact hf.exactSum_mem e.terms s
  · rintro ⟨hlo, hhi⟩
    obtain ⟨faces, rolled, s, hroll, hn⟩ := exists_roll_dealt h hlo hhi
    exact ⟨_, Faces.dealt, faces, s, rolled, Faces.keepsToSides_dealt, hroll, hn⟩

/-- Both signs, dice without faces, dice that are not thrown, and constants of either kind. -/
theorem attainable_iff_mixed :
    let e : Expr := ⟨[.plus (.dice ⟨3, 6⟩), ⟨.minus, .dice ⟨1, 4⟩⟩, .plus (.dice ⟨2, 0⟩),
      ⟨.minus, .dice ⟨0, 8⟩⟩, .plus (.constant (-7)), ⟨.minus, .constant (-2)⟩]⟩
    e.constantReach + e.diceReach ≤ 2 ^ 63 - 1 ∧ ∀ n, e.Attainable n ↔ -6 ≤ n ∧ n ≤ 12 := by
  intro e
  have hreach : e.constantReach + e.diceReach = 31 := rfl
  have h : e.constantReach + e.diceReach ≤ 2 ^ 63 - 1 := by omega
  have hleast : e.least = -6 := rfl
  have hgreatest : e.greatest = 12 := rfl
  obtain ⟨-, hrange⟩ := attainable_iff h
  rw [hleast, hgreatest] at hrange
  exact ⟨h, hrange⟩

end Expr

end Tabletop
