import Mathlib.Algebra.Order.BigOperators.Group.List
import Tabletop.Proofs.Exact
import Tabletop.Proofs.Settling
import Tabletop.Proofs.Shares

/-!
# Fair dice

A die has its faces evenly from either zone, by `sharedEvenly_trial` with 1 as the lower bound. For a
sum of dice the argument goes along the dice: a face is at most the number of sides, so as long as all
dice at their highest would not overflow, what is left of them has room behind any partial sum, and no
addition is refused (`sumFaces_settled`). Hence

> `Generator.roller_fair`: a die shows each of its faces for the same number of words, whether it is
> thrown on its own or for a sum; and whatever the words are, the faces and the sums are those of dice.
-/

namespace Tabletop.Random

variable {σ : Type}

/-- The word stands for a face of a die with these sides, with the zone that a rule assigns. -/
def face (zone : BitVec 32 → BitVec 32) (sides : UInt32) (word : BitVec 32) : Option (BitVec 32) :=
  trial zone (1 : UInt32).toBitVec sides.toBitVec word

/-- The faces of a die with sides are given the same number of words each. -/
theorem sharedEvenly_face {zone : BitVec 32 → BitVec 32} (hzone : EvenZone zone) {sides : UInt32}
    (hsides : sides ≠ 0) :
    SharedEvenly (face zone sides) fun v => 1 ≤ v.toNat ∧ v.toNat ≤ sides.toNat := by
  have hone : (1 : UInt32).toBitVec ≤ sides.toBitVec := Die.one_le_sides hsides
  exact (sharedEvenly_trial hzone _ _).congr fun v => sub_le_sub_iff_of_le hone

/-- The faces of dice whose sum cannot overflow are drawn and added up, or one is not settled. -/
theorem sumFaces_settled {word : σ → BitVec 32 × σ} {patience : Nat}
    {accept : BitVec 32 → Option (BitVec 32)} {highest : Nat}
    (hhighest : ∀ x v, accept x = some v → v.toNat ≤ highest) {draw : RollM σ UInt32}
    (hdraw : ∀ s, Settled (fun face s' => Accepted word patience accept s face.toBitVec s')
      (Rejected word patience accept s) (draw s)) :
    ∀ (times : Nat) (total : Int64) (n : Nat) (s : σ), total.toInt = n →
      n + times * highest ≤ 2 ^ 63 - 1 →
        Settled (fun sum s' => ∃ faces, Drawn word patience (List.replicate times accept) s faces s' ∧
            sum.toInt = ((n + (faces.map BitVec.toNat).sum : Nat) : Int))
          (Stalled word patience (List.replicate times accept) s) (sumFaces draw times total s) := by
  intro times
  induction times with
  | zero => exact fun total n s htotal _ => ⟨[], .nil, htotal⟩
  | succ times ih =>
    intro total n s htotal hfits
    rw [Nat.succ_mul] at hfits
    refine (hdraw s).bind (fun s' => .here) fun face s₁ hface => ?_
    have hle : face.toNat ≤ highest := by
      obtain ⟨x, hx⟩ := hface.exists_word
      exact hhighest x _ hx
    -- the sum with this face fits, since the other faces leave room for it
    obtain ⟨sum, hadd, hsum⟩ : ∃ sum, Checked.add total (Int64.ofNat face.toNat) = .ok sum ∧
        sum.toInt = ((n + face.toNat : Nat) : Int) := by
      rw [add_face, htotal]
      have hin : Checked.InRange ((n : Int) + face.toNat) := ⟨by omega, by omega⟩
      exact ⟨_, if_pos hin, Checked.toInt_ofInt_of_inRange hin⟩
    rw [hadd]
    refine (ih sum (n + face.toNat) s₁ hsum (by omega)).mono ?_ fun s' => .later hface
    rintro last s' ⟨faces, hfaces, hlast⟩
    refine ⟨face.toBitVec :: faces, .cons hface hfaces, ?_⟩
    rw [List.map_cons, List.sum_cons, hlast, Nat.add_assoc]
    rfl

/-- **Every generator throws fair dice.** A single die and the dice of a sum go by different zones. By
either, each face of a die with sides is given the same number of the 32-bit words, at least one, and
no word is taken for anything but a face. A single die shows what the first accepted word stands for,
and a sum that cannot overflow is that of as many such faces, drawn one after the other, so at least
the number of dice and at most their highest sum. Either ends without a result only if a row of words
as long as the patience is rejected. -/
theorem Generator.roller_fair {sides : UInt32} (hsides : sides ≠ 0) :
    SharedEvenly (face shiftedZone sides) (fun v => 1 ≤ v.toNat ∧ v.toNat ≤ sides.toNat) ∧
    SharedEvenly (face exactZone sides) (fun v => 1 ≤ v.toNat ∧ v.toNat ≤ sides.toNat) ∧
    ∀ (σ : Type) (g : Generator σ) (patience : Nat) (s : σ),
      Settled
        (fun n s' => Accepted g.word32 patience (face shiftedZone sides) s n.toBitVec s' ∧
          1 ≤ n.toNat ∧ n.toNat ≤ sides.toNat)
        (Rejected g.word32 patience (face shiftedZone sides) s)
        ((g.roller patience).roll sides s) ∧
      ∀ repetitions : UInt32, repetitions.toNat * sides.toNat ≤ 2 ^ 63 - 1 →
        Settled
          (fun (total : Int64) s' => ∃ faces, faces.length = repetitions.toNat ∧
            Drawn g.word32 patience (List.replicate repetitions.toNat (face exactZone sides)) s faces s' ∧
            total.toInt = (faces.map BitVec.toNat).sum ∧
            repetitions.toNat ≤ total.toInt ∧ total.toInt ≤ repetitions.toNat * sides.toNat)
          (Stalled g.word32 patience (List.replicate repetitions.toNat (face exactZone sides)) s)
          ((g.roller patience).rollSum repetitions sides s) := by
  have hshifted := sharedEvenly_face evenZone_shiftedZone hsides
  have hexact := sharedEvenly_face evenZone_exactZone hsides
  refine ⟨hshifted, hexact, fun σ g patience s => ⟨?_, fun repetitions hfits => ?_⟩⟩
  · refine (between_settled shiftedZone patience g 1 sides s).mono (fun n s' hn => ⟨hn, ?_⟩)
      fun s' h => h
    obtain ⟨x, hx⟩ := hn.exists_word
    exact hshifted.2 x _ hx
  · have hsum := sumFaces_settled (fun x v hv => (hexact.2 x v hv).2)
      (between_settled exactZone patience g 1 sides) repetitions.toNat 0 0 s rfl (by omega)
    refine hsum.mono ?_ fun s' h => h
    rintro total s' ⟨faces, hfaces, htotal⟩
    have hlength := hfaces.length_eq
    rw [List.length_replicate] at hlength
    have hface : ∀ n ∈ faces.map BitVec.toNat, 1 ≤ n ∧ n ≤ sides.toNat := by
      intro n hn
      obtain ⟨v, hv, rfl⟩ := List.mem_map.1 hn
      obtain ⟨accept, haccept, x, hx⟩ := hfaces.accepts_of_mem hv
      rw [List.eq_of_mem_replicate haccept] at hx
      exact hexact.2 x v hx
    have hlo := List.card_nsmul_le_sum _ 1 fun n hn => (hface n hn).1
    have hhi := List.sum_le_card_nsmul _ sides.toNat fun n hn => (hface n hn).2
    rw [List.length_map, hlength, Nat.nsmul_eq_mul] at hlo hhi
    rw [Nat.zero_add] at htotal
    refine ⟨faces, hlength, hfaces, htotal, ?_, ?_⟩
    · omega
    · rw [htotal]
      exact_mod_cast hhi

/-- Three dice with six sides: the first word is rejected, the next ones are faces 1, 6 and 4. -/
theorem Generator.roller_fair_six_sides :
    (splitMix.after.roller 2).rollSum 3 6
        ([0x2aaaaaaa00000000, 0, 0xffffffff00000000, 0x8000000000000000], 0) = .ok 11 ([], 0) ∧
      ∃ faces, faces.length = 3 ∧
        Drawn splitMix.after.word32 2 (List.replicate 3 (face exactZone 6))
          ([0x2aaaaaaa00000000, 0, 0xffffffff00000000, 0x8000000000000000], 0) faces ([], 0) ∧
        (faces.map BitVec.toNat).sum = 11 := by
  have hrun : (splitMix.after.roller 2).rollSum 3 6
      ([0x2aaaaaaa00000000, 0, 0xffffffff00000000, 0x8000000000000000], 0) = .ok 11 ([], 0) := rfl
  obtain ⟨-, -, hfair⟩ := @roller_fair 6 (by decide)
  obtain ⟨-, hsum⟩ := hfair _ splitMix.after 2
    ([0x2aaaaaaa00000000, 0, 0xffffffff00000000, 0x8000000000000000], 0)
  have h := hsum 3 (by decide)
  rw [hrun] at h
  obtain ⟨faces, hlength, hfaces, htotal, -, -⟩ := h
  refine ⟨hrun, faces, hlength, hfaces, ?_⟩
  have heleven : ((faces.map BitVec.toNat).sum : Int) = 11 := htotal.symm
  omega

end Tabletop.Random
