import Tabletop.Proofs.Selections
import Tabletop.Proofs.Settling
import Tabletop.Proofs.Shares
import Tabletop.Random.Pick

/-!
# Picking distinct elements

The draws for distinct positions are independent of each other: whatever the draws before it, each one
is any number between its bounds, for the same number of words (`sharedEvenly_target`). So the rows of
draws that can come up are all those within their bounds, and what selections they stand for is settled
by `Method.positions_bijOn`, which does not ask where the draws are from. Of a generator it remains to
say that it makes these draws and no others, in this order (`positions_settled`), and that any of them
are made for some words (`Selection.exists_words`).

> `elements_distinct`: the elements picked are from distinct positions, as many as asked for or as
> there are, and the rows of draws are in one-to-one correspondence with the ordered selections.

Positions are drawn as 32-bit numbers, of which there are more than enough for a pool of this size.
-/

namespace Tabletop.Random

open List (Forall₂)

/-! ## Draws -/

/-- The position between two bounds that a word names, if it is accepted. -/
def target (b : Nat × Nat) (word : BitVec 32) : Option (BitVec 32) :=
  trial shiftedZone (UInt32.ofNat b.1).toBitVec (UInt32.ofNat b.2).toBitVec word

/-- The positions between two bounds are named by the same number of words each. -/
theorem sharedEvenly_target {b : Nat × Nat} (horder : b.1 ≤ b.2) (hfits : b.2 < 2 ^ 32) :
    SharedEvenly (target b) fun v => b.1 ≤ v.toNat ∧ v.toNat ≤ b.2 := by
  have hlow : (UInt32.ofNat b.1).toBitVec.toNat = b.1 :=
    UInt32.toNat_ofNat_of_lt' (Nat.lt_of_le_of_lt horder hfits)
  have hhigh : (UInt32.ofNat b.2).toBitVec.toNat = b.2 := UInt32.toNat_ofNat_of_lt' hfits
  have hle : (UInt32.ofNat b.1).toBitVec ≤ (UInt32.ofNat b.2).toBitVec := by
    rwa [BitVec.le_def, hlow, hhigh]
  refine (sharedEvenly_trial evenZone_shiftedZone _ _).congr fun v => ?_
  rw [sub_le_sub_iff_of_le hle, BitVec.le_def, BitVec.le_def, hlow, hhigh]

/-- A position is read off one draw. -/
theorem position_settled {σ : Type} (patience : Nat) (g : Generator σ) (b : Nat × Nat) (s : σ) :
    Settled (fun p s' => ∃ v, Accepted g.word32 patience (target b) s v s' ∧ p = v.toNat)
      (Rejected g.word32 patience (target b) s) (position patience g b.1 b.2 s) :=
  (between_settled shiftedZone patience g _ _ s).bind (fun _ h => h) fun n _ hn =>
    ⟨n.toBitVec, hn, rfl⟩

/-- A position is drawn at once by some word. -/
theorem exists_word_position {b : Nat × Nat} {p : Nat} (hlo : b.1 ≤ p) (hhi : p ≤ b.2)
    (hfits : b.2 < 2 ^ 32) :
    ∃ word : UInt64, ∀ {σ : Type} (g : Generator σ) (patience : Nat) (s : σ), (g.next s).1 = word →
      position (patience + 1) g b.1 b.2 s = .ok p (g.next s).2 := by
  have hp : (BitVec.ofNat 32 p).toNat = p := Nat.mod_eq_of_lt (Nat.lt_of_le_of_lt hhi hfits)
  obtain ⟨word, hword⟩ := (sharedEvenly_target (Nat.le_trans hlo hhi) hfits).exists_word
    (v := BitVec.ofNat 32 p) (by
      rw [hp]
      exact ⟨hlo, hhi⟩)
  refine ⟨UInt64.ofBitVec (word ++ 0#32), fun g patience s hnext => ?_⟩
  have hfirst : target b (g.word32 s).1 = some (BitVec.ofNat 32 p) := by
    rw [Generator.word32, hnext, UInt64.toBitVec_ofBitVec, BitVec.extractLsb'_append_eq_left]
    exact hword
  show ((firstAccepted g.word32 (target b) (patience + 1) >>= fun v => pure (UInt32.ofBitVec v)) >>=
    fun n => pure n.toNat) s = _
  rw [RollM.bind_apply, RollM.bind_apply, firstAccepted_of_accept hfirst]
  show EStateM.Result.ok (BitVec.ofNat 32 p).toNat _ = _
  rw [hp]
  rfl

/-! ## Rows of draws -/

theorem Method.bounds_lt {m : Method} {length amount : Nat} (h : amount ≤ length) :
    ∀ b ∈ m.bounds length amount, b.1 ≤ b.2 ∧ b.2 < length := by
  intro b hb
  cases m <;> obtain ⟨i, hi, rfl⟩ := List.mem_map.1 hb <;> rw [List.mem_range] at hi
  · exact ⟨by omega, by omega⟩
  · exact ⟨Nat.zero_le _, by omega⟩

/-- Draws between bounds have values between them. -/
theorem Drawn.within {σ : Type} {word : σ → BitVec 32 × σ} {patience : Nat}
    {bounds : List (Nat × Nat)} {s s' : σ} {vs : List (BitVec 32)}
    (hbounds : ∀ b ∈ bounds, b.1 ≤ b.2 ∧ b.2 < 2 ^ 32)
    (h : Drawn word patience (bounds.map target) s vs s') : Within bounds (vs.map BitVec.toNat) := by
  have hdrawn := (List.forall₂_and_left bounds vs).2 ⟨hbounds, List.forall₂_map_left_iff.1 h.forall₂⟩
  refine List.forall₂_map_right_iff.2 (hdrawn.imp ?_)
  rintro b v ⟨⟨horder, hfits⟩, word, hword⟩
  exact (sharedEvenly_target horder hfits).2 word v hword

/-- Any numbers between the bounds are drawn for some words. -/
theorem Within.exists_words {bounds : List (Nat × Nat)} {draws : List Nat} (h : Within bounds draws)
    (hfits : ∀ b ∈ bounds, b.2 < 2 ^ 32) :
    ∃ words : List UInt64, words.length = bounds.length ∧
      ∀ {σ : Type} (g : Generator σ) (patience : Nat) (s : σ),
        bounds.mapM (fun b => position (patience + 1) g.after b.1 b.2) (words, s) =
          .ok draws ([], s) := by
  induction h with
  | nil => exact ⟨[], rfl, fun _ _ _ => rfl⟩
  | @cons b p bounds draws hp _ ih =>
    obtain ⟨words, hlength, hwords⟩ := ih fun b hb => hfits b (List.mem_cons_of_mem _ hb)
    obtain ⟨word, hword⟩ := exists_word_position hp.1 hp.2 (hfits b List.mem_cons_self)
    refine ⟨word :: words, congrArg (· + 1) hlength, fun g patience s => ?_⟩
    rw [List.mapM_cons, RollM.bind_apply, hword g.after patience (word :: words, s) rfl]
    show ((bounds.mapM fun b => position (patience + 1) g.after b.1 b.2) >>= fun ps => pure (p :: ps))
      (words, s) = _
    rw [RollM.bind_apply, hwords]
    rfl

section

variable {length amount : Nat} (hlength : length ≤ 2 ^ 32)

include hlength

/-- The positions chosen are those that draws between the bounds stand for. -/
theorem positions_settled {σ : Type} (patience : Nat) (g : Generator σ) (s : σ) :
    let count := min amount length
    let m := Method.choose length count
    Settled
      (fun places s' => ∃ vs, Drawn g.word32 patience ((m.bounds length count).map target) s vs s' ∧
        Within (m.bounds length count) (vs.map BitVec.toNat) ∧
        places = m.positions length count (vs.map BitVec.toNat))
      (Stalled g.word32 patience ((m.bounds length count).map target) s)
      (positions patience g length amount s) := by
  intro count m
  have hbounds : ∀ b ∈ m.bounds length count, b.1 ≤ b.2 ∧ b.2 < 2 ^ 32 := by
    intro b hb
    obtain ⟨horder, hlt⟩ := m.bounds_lt (Nat.min_le_right amount length) b hb
    exact ⟨horder, Nat.lt_of_lt_of_le hlt hlength⟩
  refine (mapM_settled (m.bounds length count) (fun b _ => position_settled patience g b) s).bind
    (fun s' h => h) ?_
  rintro draws s' ⟨vs, hvs, rfl⟩
  exact ⟨vs, hvs, hvs.within hbounds, rfl⟩

/-- Any selection is chosen for some words. -/
theorem Selection.exists_words {places : List Nat}
    (h : Selection (List.range length) (min amount length) places) :
    ∃ words : List UInt64, words.length = min amount length ∧
      ∀ {σ : Type} (g : Generator σ) (patience : Nat) (s : σ),
        positions (patience + 1) g.after length amount (words, s) = .ok places ([], s) := by
  have hcount := Nat.min_le_right amount length
  obtain ⟨m, hm⟩ : ∃ m, m = Method.choose length (min amount length) := ⟨_, rfl⟩
  obtain ⟨draws, hwithin, rfl⟩ := (m.positions_bijOn hcount).surjOn h
  obtain ⟨words, hwords, hdraws⟩ := Within.exists_words hwithin fun b hb =>
    Nat.lt_of_lt_of_le (m.bounds_lt hcount b hb).2 hlength
  refine ⟨words, hwords.trans (m.length_bounds ..), fun g patience s => ?_⟩
  show (((Method.choose length (min amount length)).bounds length (min amount length)).mapM
    (fun b => position (patience + 1) g.after b.1 b.2) >>= fun draws =>
      pure ((Method.choose length (min amount length)).positions length (min amount length) draws))
    (words, s) = _
  rw [← hm, RollM.bind_apply, hdraws]
  rfl

end

/-! ## Elements -/

section

variable {α : Type} {pool : List α} {places : List Nat}

/-- At positions of a pool there are elements. -/
theorem forall₂_filterMap (h : ∀ p ∈ places, p ∈ List.range pool.length) :
    Forall₂ (fun p x => pool[p]? = some x) places (places.filterMap (pool[·]?)) := by
  induction places with
  | nil => exact .nil
  | cons p places ih =>
    have hp := List.getElem?_eq_getElem (List.mem_range.1 (h p List.mem_cons_self))
    rw [List.filterMap_cons_some hp]
    exact .cons hp (ih fun q hq => h q (List.mem_cons_of_mem p hq))

theorem filterMap_range (pool : List α) :
    (List.range pool.length).filterMap (pool[·]?) = pool := by
  induction pool with
  | nil => rfl
  | cons x pool ih =>
    rw [List.length_cons, List.range_succ_eq_map, List.filterMap_cons, List.filterMap_map]
    exact congrArg (x :: ·) ih

/-- With all positions selected, the elements are those of the pool in another order. -/
theorem Selection.filterMap_perm (h : Selection (List.range pool.length) pool.length places) :
    (places.filterMap (pool[·]?)).Perm pool := by
  have hplaces : places.Perm (List.range pool.length) := by
    refine (List.subperm_of_subset h.nodup h.mem_row).perm_of_length_le ?_
    rw [List.length_range, h.length_eq]
  have helements := hplaces.filterMap (pool[·]?)
  rwa [filterMap_range] at helements

end

/-- **Elements are picked from distinct positions.** With either method, the rows of draws within their
bounds correspond to the ordered selections of as many positions as asked for, or of all of them. What
is picked with a generator are the elements at the positions that its draws stand for, in this order;
when all are asked for, it is the pool in another order. It ends without a result only if a row of
words as long as the patience is rejected. Every ordered selection is picked for some words. -/
theorem elements_distinct {α : Type} (pool : List α) (hpool : pool.length ≤ 1000) (amount : Nat) :
    let count := min amount pool.length
    let m := Method.choose pool.length count
    (∀ method : Method, Set.BijOn (fun draws => method.positions pool.length count draws)
      {draws | Within (method.bounds pool.length count) draws}
      {places | Selection (List.range pool.length) count places}) ∧
    (∀ (σ : Type) (g : Generator σ) (patience : Nat) (s : σ),
      Settled
        (fun picked s' => ∃ vs places,
          Drawn g.word32 patience ((m.bounds pool.length count).map target) s vs s' ∧
          Within (m.bounds pool.length count) (vs.map BitVec.toNat) ∧
          places = m.positions pool.length count (vs.map BitVec.toNat) ∧
          Selection (List.range pool.length) count places ∧
          Forall₂ (fun p x => pool[p]? = some x) places picked ∧
          picked.length = count ∧ (pool.length ≤ amount → picked.Perm pool))
        (Stalled g.word32 patience ((m.bounds pool.length count).map target) s)
        (elements patience g pool amount s)) ∧
    ∀ places, Selection (List.range pool.length) count places →
      ∃ (words : List UInt64) (picked : List α), words.length = count ∧
        Forall₂ (fun p x => pool[p]? = some x) places picked ∧
        ∀ (σ : Type) (g : Generator σ) (patience : Nat) (s : σ),
          elements (patience + 1) g.after pool amount (words, s) = .ok picked ([], s) := by
  intro count m
  have hcount : count ≤ pool.length := Nat.min_le_right amount pool.length
  have hlength : pool.length ≤ 2 ^ 32 := Nat.le_trans hpool (by decide)
  refine ⟨fun method => method.positions_bijOn hcount, fun σ g patience s => ?_, fun places hplaces => ?_⟩
  · refine (positions_settled hlength patience g s).bind (fun s' h => h) ?_
    rintro places s' ⟨vs, hvs, hwithin, hpositions⟩
    have hplaces : Selection (List.range pool.length) count places := by
      rw [hpositions]
      exact (m.positions_bijOn hcount).mapsTo hwithin
    have helements := forall₂_filterMap hplaces.mem_row
    refine ⟨vs, places, hvs, hwithin, hpositions, hplaces, helements, ?_, fun hall => ?_⟩
    · rw [← helements.length_eq, hplaces.length_eq]
    · have hfull : count = pool.length := Nat.min_eq_right hall
      rw [hfull] at hplaces
      exact hplaces.filterMap_perm
  · obtain ⟨words, hwords, hpositions⟩ := hplaces.exists_words hlength
    refine ⟨words, places.filterMap (pool[·]?), hwords, forall₂_filterMap hplaces.mem_row,
      fun σ g patience s => ?_⟩
    show (positions (patience + 1) g.after pool.length amount >>= fun chosen =>
      pure (chosen.filterMap (pool[·]?))) (words, s) = _
    rw [RollM.bind_apply, hpositions]
    rfl

/-- More elements are asked for than there are. The second and the third draw repeat a position. -/
theorem elements_distinct_three :
    let pool := ["a", "b", "c"]
    elements 1 Generator.splitMix.after pool 5 ([0, 0, 0x6000000000000000], 0) =
        .ok ["c", "b", "a"] ([], 0) ∧
      (∃ places, Selection (List.range 3) 3 places ∧
        Forall₂ (fun p x => pool[p]? = some x) places ["c", "b", "a"]) ∧
      ["c", "b", "a"].Perm pool ∧
      ∃ (words : List UInt64) (picked : List String),
        Forall₂ (fun p x => pool[p]? = some x) [1, 2, 0] picked ∧
        elements 1 Generator.splitMix.after pool 5 (words, 0) = .ok picked ([], 0) := by
  intro pool
  have hrun : elements 1 Generator.splitMix.after ["a", "b", "c"] 5 ([0, 0, 0x6000000000000000], 0) =
      .ok ["c", "b", "a"] ([], 0) := rfl
  obtain ⟨-, hsettled, hreached⟩ := elements_distinct ["a", "b", "c"] (by decide) 5
  have h := hsettled _ Generator.splitMix.after 1 ([0, 0, 0x6000000000000000], 0)
  rw [hrun] at h
  obtain ⟨vs, places, -, -, -, hplaces, helements, -, hperm⟩ := h
  obtain ⟨words, picked, -, hpicked, hwords⟩ := hreached [1, 2, 0]
    ⟨rfl, by decide, by decide⟩
  exact ⟨hrun, ⟨places, hplaces, helements⟩, hperm (by decide), words, picked, hpicked,
    hwords _ Generator.splitMix 0 0⟩

end Tabletop.Random
