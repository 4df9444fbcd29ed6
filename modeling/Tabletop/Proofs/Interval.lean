import Tabletop.Checked
import Tabletop.Proofs.Settling
import Tabletop.Proofs.Shares

/-!
# Integers of an interval

The length of an interval of signed numbers is taken as if they were unsigned, and the offset that a
word stands for is added to the lower bound with wrapping. That is right for any two bounds in order,
also for bounds further apart than the highest signed number: on the circle of words the signed
numbers from one to the other are the words from one to the other (`sub_le_sub_iff_of_toInt_le`). So
even shares (`sharedEvenly_trial`), which include those of the full range, carry over to integers
(`sharedEvenly_offer`), and

> `integer_between`: an integer drawn between two bounds is between them, any integer between them is
> drawn by some word, and it makes no difference which of the bounds is named first.
-/

namespace Tabletop.Random

/-- The lower one of two bounds. -/
def lower (a b : Int64) : Int64 := if a ≤ b then a else b

/-- The higher one of two bounds. -/
def upper (a b : Int64) : Int64 := if a ≤ b then b else a

theorem toInt_lower (a b : Int64) : (lower a b).toInt = min a.toInt b.toInt := by
  unfold lower
  split
  next h =>
    rw [Int64.le_iff_toInt_le] at h
    exact (min_eq_left h).symm
  next h =>
    rw [Int64.le_iff_toInt_le] at h
    exact (min_eq_right (Int.le_of_not_le h)).symm

theorem toInt_upper (a b : Int64) : (upper a b).toInt = max a.toInt b.toInt := by
  unfold upper
  split
  next h =>
    rw [Int64.le_iff_toInt_le] at h
    exact (max_eq_right h).symm
  next h =>
    rw [Int64.le_iff_toInt_le] at h
    exact (max_eq_left (Int.le_of_not_le h)).symm

/-- The integer between two bounds that a word stands for, if it is accepted. -/
def offer (a b : Int64) (word : BitVec 64) : Option (BitVec 64) :=
  trial shiftedZone (lower a b).toBitVec (upper a b).toBitVec word

theorem offer_comm (a b : Int64) : offer a b = offer b a := by
  have hlower : lower a b = lower b a := by
    rw [← Int64.toInt_inj, toInt_lower, toInt_lower, min_comm]
  have hupper : upper a b = upper b a := by
    rw [← Int64.toInt_inj, toInt_upper, toInt_upper, max_comm]
  unfold offer
  rw [hlower, hupper]

/-- The integers between two bounds are given the same number of words each. -/
theorem sharedEvenly_offer (a b : Int64) :
    SharedEvenly (offer a b) fun v =>
      min a.toInt b.toInt ≤ v.toInt ∧ v.toInt ≤ max a.toInt b.toInt := by
  have hlower : (lower a b).toBitVec.toInt = min a.toInt b.toInt := toInt_lower a b
  have hupper : (upper a b).toBitVec.toInt = max a.toInt b.toInt := toInt_upper a b
  have horder : (lower a b).toBitVec.toInt ≤ (upper a b).toBitVec.toInt := by
    rw [hlower, hupper]
    exact min_le_max
  refine (sharedEvenly_trial evenZone_shiftedZone _ _).congr fun v => ?_
  rw [sub_le_sub_iff_of_toInt_le horder, hlower, hupper]

/-- An integer between two bounds is the value of one draw. -/
theorem integer_settled {σ : Type} (patience : Nat) (g : Generator σ) (a b : Int64) (s : σ) :
    Settled (fun v s' => Accepted g.word64 patience (offer a b) s v.toBitVec s')
      (Rejected g.word64 patience (offer a b) s) (integer patience g a b s) :=
  (firstAccepted_settled g.word64 (offer a b) patience s).bind (fun _ h => h) fun _ _ h => h

/-- **An integer stays in its interval.** For any two bounds, an integer drawn between them is what the
first accepted word stands for, and is not below the lower bound nor above the higher one; the draw
ends without one only if a row of words as long as the patience is rejected. Each integer of the
interval is drawn at once by some word. With the bounds the other way round, the draw gives the same
and leaves the same state. -/
theorem integer_between (a b : Int64) :
    (∀ (σ : Type) (g : Generator σ) (patience : Nat) (s : σ),
      Settled
        (fun v s' => Accepted g.word64 patience (offer a b) s v.toBitVec s' ∧
          min a.toInt b.toInt ≤ v.toInt ∧ v.toInt ≤ max a.toInt b.toInt)
        (Rejected g.word64 patience (offer a b) s) (integer patience g a b s)) ∧
    (∀ n : Int, min a.toInt b.toInt ≤ n → n ≤ max a.toInt b.toInt →
      ∃ (word : UInt64) (v : Int64), v.toInt = n ∧
        ∀ (σ : Type) (g : Generator σ) (patience : Nat) (s : σ), (g.next s).1 = word →
          integer (patience + 1) g a b s = .ok v (g.next s).2) ∧
    ∀ (σ : Type) (g : Generator σ) (patience : Nat), integer patience g a b = integer patience g b a := by
  have hoffer := sharedEvenly_offer a b
  refine ⟨fun σ g patience s => ?_, fun n hlo hhi => ?_, fun σ g patience => ?_⟩
  · refine (integer_settled patience g a b s).mono (fun v s' hv => ⟨hv, ?_⟩) fun s' h => h
    obtain ⟨x, hx⟩ := hv.exists_word
    exact hoffer.2 x _ hx
  · have hn : (Int64.ofInt n).toInt = n := by
      have ha := Checked.inRange_toInt a
      have hb := Checked.inRange_toInt b
      refine Checked.toInt_ofInt_of_inRange ⟨?_, ?_⟩
      · exact Int.le_trans (le_min ha.1 hb.1) hlo
      · exact Int.lt_of_le_of_lt hhi (max_lt ha.2 hb.2)
    have hv : (Int64.ofInt n).toBitVec.toInt = n := hn
    obtain ⟨word, hword⟩ := hoffer.exists_word (v := (Int64.ofInt n).toBitVec) (by
      rw [hv]
      exact ⟨hlo, hhi⟩)
    refine ⟨UInt64.ofBitVec word, Int64.ofInt n, hn, fun σ g patience s hnext => ?_⟩
    have hfirst : offer a b (g.word64 s).1 = some (Int64.ofInt n).toBitVec := by
      rw [Generator.word64, hnext]
      exact hword
    show (firstAccepted g.word64 (offer a b) (patience + 1) >>= fun v => pure (Int64.ofBitVec v)) s = _
    rw [RollM.bind_apply, firstAccepted_of_accept hfirst]
    rfl
  · show (firstAccepted g.word64 (offer a b) patience >>= fun v => pure (Int64.ofBitVec v)) =
      (firstAccepted g.word64 (offer b a) patience >>= fun v => pure (Int64.ofBitVec v))
    rw [offer_comm]

end Tabletop.Random
