import Mathlib.Algebra.Order.Floor.Div
import Mathlib.Data.BitVec
import Mathlib.Data.FinEnum
import Mathlib.Order.Interval.Finset.Nat
import Tabletop.Random.Span

/-!
# Even shares

Multiplied with the length of an interval, the words are the multiples of that length below `2 ^ w`
times as much, and a value is given the multiples in one block of length `2 ^ w`. A block holds more of
them or fewer, depending on where its first one falls. But of each block only the front counts, up to
the zone, and both zones make the front a multiple of the length long (`EvenZone`). However an interval
is placed, it holds as many multiples of a number as it is multiples of that number long
(`mul_mem_iff`). Hence

> `sharedEvenly_trial`: every value between two bounds stands for the same number of words, at least
> one, and no word stands for any other value.

*Between* is meant on the circle of words, from the lower bound upward, which leaves open whether the
bounds are signed. For bounds in order it is the usual order, be they unsigned
(`sub_le_sub_iff_of_le`) or signed (`sub_le_sub_iff_of_toInt_le`).
-/

namespace Tabletop.Random

variable {w : Nat}

/-! ## Multiples in an interval -/

/-- An interval that is `share` multiples of `n` long holds `share` multiples of `n`. -/
theorem mul_mem_iff {n : Nat} (hn : 0 < n) (start share k : Nat) :
    start ≤ n * k ∧ n * k < start + n * share ↔
      start ⌈/⌉ n ≤ k ∧ k < start ⌈/⌉ n + share := by
  have hup : ∀ k, start ⌈/⌉ n ≤ k ↔ start ≤ n * k := fun k => ceilDiv_le_iff_le_mul hn
  have hlt : n * k < start + n * share ↔ k < start ⌈/⌉ n + share := by
    by_cases hshare : k < share
    · have hmul : n * k < n * share := Nat.mul_lt_mul_of_pos_left hshare hn
      omega
    · obtain ⟨j, rfl⟩ := Nat.exists_eq_add_of_le (Nat.le_of_not_lt hshare)
      have hj := hup j
      rw [Nat.mul_add]
      omega
  rw [hup, hlt]

/-- The words of an interval are as many as it is long. -/
theorem card_words_Ico {start stop : Nat} (h : stop ≤ 2 ^ w) :
    (Finset.univ.filter fun word : BitVec w => start ≤ word.toNat ∧ word.toNat < stop).card =
      stop - start := by
  rw [← Nat.card_Ico start stop]
  refine Finset.card_nbij' BitVec.toNat (BitVec.ofNat w) ?_ ?_ ?_ ?_
  · intro word hword
    simpa using hword
  · intro n hn
    obtain ⟨hlo, hhi⟩ := Finset.mem_Ico.1 hn
    have hmod : n % 2 ^ w = n := Nat.mod_eq_of_lt (Nat.lt_of_lt_of_le hhi h)
    simpa [hmod] using ⟨hlo, hhi⟩
  · intro word _
    rw [BitVec.ofNat_toNat, BitVec.setWidth_eq]
  · intro n hn
    obtain ⟨-, hhi⟩ := Finset.mem_Ico.1 hn
    exact Nat.mod_eq_of_lt (Nat.lt_of_lt_of_le hhi h)

/-! ## Zones -/

/-- A rule for zones under which as many lower halves count as there are multiples of the length in
some whole number of them. -/
def EvenZone (zone : BitVec w → BitVec w) : Prop :=
  ∀ length, length ≠ 0 → ∃ share, 0 < share ∧ (zone length).toNat + 1 = length.toNat * share

theorem toNat_pos {x : BitVec w} (h : x ≠ 0) : 0 < x.toNat :=
  Nat.pos_of_ne_zero fun hzero => h (BitVec.eq_of_toNat_eq hzero)

/-- The shifted zone leaves a power of two to each value. -/
theorem evenZone_shiftedZone : EvenZone (shiftedZone (w := w)) := by
  intro length hlength
  have hclz : length.clz.toNat < w := by
    have hlt := BitVec.clz_lt_iff_ne_zero.2 hlength
    rw [BitVec.lt_def, BitVec.natCast_eq_ofNat, BitVec.toNat_ofNat] at hlt
    exact Nat.lt_of_lt_of_le hlt (Nat.mod_le _ _)
  have hfits : length.toNat * 2 ^ length.clz.toNat < 2 ^ w :=
    calc
      length.toNat * 2 ^ length.clz.toNat
        < 2 ^ (w - length.clz.toNat) * 2 ^ length.clz.toNat :=
          Nat.mul_lt_mul_of_pos_right BitVec.toNat_lt_two_pow_sub_clz (Nat.two_pow_pos _)
      _ = 2 ^ w := by rw [← Nat.pow_add, Nat.sub_add_cancel (Nat.le_of_lt hclz)]
  have hpos : 0 < length.toNat * 2 ^ length.clz.toNat :=
    Nat.mul_pos (toNat_pos hlength) (Nat.two_pow_pos _)
  have hshift : (length <<< length.clz).toNat = length.toNat * 2 ^ length.clz.toNat := by
    rw [BitVec.shiftLeft_eq', BitVec.toNat_shiftLeft, Nat.shiftLeft_eq, Nat.mod_eq_of_lt hfits]
  refine ⟨2 ^ length.clz.toNat, Nat.two_pow_pos _, ?_⟩
  have hone : (1 : BitVec w).toNat = 1 := BitVec.toNat_one (Nat.zero_lt_of_lt hclz)
  have hle : (1 : BitVec w) ≤ length <<< length.clz := by
    rw [BitVec.le_def, hone, hshift]
    exact hpos
  rw [shiftedZone, BitVec.toNat_sub_of_le hle, hone, hshift, Nat.sub_add_cancel hpos]

/-- The exact zone leaves to each value as many words as go into all of them evenly. -/
theorem evenZone_exactZone : EvenZone (exactZone (w := w)) := by
  intro length hlength
  have hpos := toNat_pos hlength
  have hlt := length.isLt
  refine ⟨2 ^ w / length.toNat, Nat.div_pos (Nat.le_of_lt hlt) hpos, ?_⟩
  -- the words that do not go in evenly are as many with one length less
  have hreject : (-length % length).toNat = 2 ^ w % length.toNat := by
    rw [BitVec.toNat_umod, BitVec.toNat_neg, Nat.mod_eq_of_lt (Nat.sub_lt (Nat.two_pow_pos w) hpos),
      ← Nat.mod_eq_sub_mod (Nat.le_of_lt hlt)]
  have hdiv := Nat.div_add_mod (2 ^ w) length.toNat
  have hmod := Nat.mod_lt (2 ^ w) hpos
  have hle : -length % length ≤ BitVec.allOnes w := by
    rw [BitVec.le_def, hreject, BitVec.toNat_allOnes]
    omega
  rw [exactZone, BitVec.toNat_sub_of_le hle, hreject, BitVec.toNat_allOnes]
  omega

/-! ## Places -/

/-- A word stands for the value whose block its multiple lies in, if it lies in the front of it. -/
theorem place_eq_some_iff {zone low length word v : BitVec w} :
    place zone low length word = some v ↔
      2 ^ w * (v - low).toNat ≤ length.toNat * word.toNat ∧
        length.toNat * word.toNat < 2 ^ w * (v - low).toNat + (zone.toNat + 1) := by
  obtain ⟨product, hproduct⟩ : ∃ product, product = length.toNat * word.toNat := ⟨_, rfl⟩
  have hlt : product / 2 ^ w < 2 ^ w := by
    rw [hproduct]
    exact Nat.div_lt_of_lt_mul (Nat.mul_lt_mul'' length.isLt word.isLt)
  have hcounts : BitVec.ofNat w product ≤ zone ↔ product % 2 ^ w ≤ zone.toNat := by
    rw [BitVec.le_def, BitVec.toNat_ofNat]
  have hvalue : low + BitVec.ofNat w (product / 2 ^ w) = v ↔ product / 2 ^ w = (v - low).toNat := by
    rw [← eq_sub_iff_add_eq', ← BitVec.toNat_inj, BitVec.toNat_ofNat, Nat.mod_eq_of_lt hlt]
  show (if BitVec.ofNat w (word.toNat * length.toNat) ≤ zone then
    some (low + BitVec.ofNat w ((word.toNat * length.toNat) >>> w)) else none) = some v ↔ _
  rw [Nat.mul_comm word.toNat, ← hproduct, Nat.shiftRight_eq_div_pow, Option.ite_none_right_eq_some,
    Option.some.injEq, hcounts, hvalue]
  have hzone := zone.isLt
  have hdiv := Nat.div_add_mod product (2 ^ w)
  have hmod := Nat.mod_lt product (Nat.two_pow_pos w)
  refine ⟨fun ⟨hfront, hblock⟩ => ?_, fun ⟨hstart, hstop⟩ => ?_⟩
  · rw [← hblock]
    omega
  · have hblock : product / 2 ^ w = (v - low).toNat := by
      refine Nat.div_eq_of_lt_le ?_ ?_
      · rw [Nat.mul_comm]
        exact hstart
      · rw [Nat.succ_mul, Nat.mul_comm]
        omega
    rw [hblock] at hdiv
    exact ⟨by omega, hblock⟩

/-! ## Shares -/

/-- All of some values stand for the same number of words, at least one, and all others for none. -/
def SharedEvenly (accept : BitVec w → Option (BitVec w)) (values : BitVec w → Prop) : Prop :=
  (∃ share, 0 < share ∧
    ∀ v, values v → (Finset.univ.filter fun word => accept word = some v).card = share) ∧
  ∀ word v, accept word = some v → values v

theorem SharedEvenly.exists_word {accept : BitVec w → Option (BitVec w)} {values : BitVec w → Prop}
    (h : SharedEvenly accept values) {v : BitVec w} (hv : values v) :
    ∃ word, accept word = some v := by
  obtain ⟨⟨share, hpos, hcard⟩, -⟩ := h
  rw [← hcard v hv, Finset.card_pos] at hpos
  obtain ⟨word, hword⟩ := hpos
  exact ⟨word, (Finset.mem_filter.1 hword).2⟩

theorem SharedEvenly.congr {accept : BitVec w → Option (BitVec w)} {values values' : BitVec w → Prop}
    (h : SharedEvenly accept values) (hiff : ∀ v, values v ↔ values' v) :
    SharedEvenly accept values' := by
  obtain rfl : values = values' := funext fun v => propext (hiff v)
  exact h

/-- In an even zone, a value of the interval is given a share of the words. -/
theorem sharedEvenly_place {zone low length : BitVec w} {share : Nat} (hlength : length ≠ 0)
    (hshare : 0 < share) (hzone : zone.toNat + 1 = length.toNat * share) :
    SharedEvenly (place zone low length) fun v => (v - low).toNat < length.toNat := by
  have hpos := toNat_pos hlength
  have hplace : ∀ word v, place zone low length word = some v ↔
      (2 ^ w * (v - low).toNat) ⌈/⌉ length.toNat ≤ word.toNat ∧
        word.toNat < (2 ^ w * (v - low).toNat) ⌈/⌉ length.toNat + share := by
    intro word v
    rw [place_eq_some_iff, hzone, mul_mem_iff hpos]
  refine ⟨⟨share, hshare, fun v hv => ?_⟩, fun word v hword => ?_⟩
  · -- the last word of the share belongs to the same block, and the last block ends with the words
    have hfits : (2 ^ w * (v - low).toNat) ⌈/⌉ length.toNat + share ≤ 2 ^ w := by
      obtain ⟨last, hlast⟩ :
          ∃ last, last + 1 = (2 ^ w * (v - low).toNat) ⌈/⌉ length.toNat + share :=
        ⟨_, Nat.sub_add_cancel (Nat.le_trans hshare (Nat.le_add_left ..))⟩
      obtain ⟨-, hfront⟩ :=
        (mul_mem_iff hpos (2 ^ w * (v - low).toNat) share last).2 ⟨by omega, by omega⟩
      have hblock : length.toNat * last < length.toNat * 2 ^ w :=
        calc
          length.toNat * last < 2 ^ w * (v - low).toNat + (zone.toNat + 1) := by rwa [hzone]
          _ ≤ 2 ^ w * (v - low).toNat + 2 ^ w := Nat.add_le_add_left zone.isLt _
          _ = 2 ^ w * ((v - low).toNat + 1) := (Nat.mul_succ ..).symm
          _ ≤ 2 ^ w * length.toNat := Nat.mul_le_mul_left _ hv
          _ = length.toNat * 2 ^ w := Nat.mul_comm ..
      have hlt : last < 2 ^ w := Nat.lt_of_mul_lt_mul_left hblock
      omega
    simp only [hplace]
    rw [card_words_Ico hfits, Nat.add_sub_cancel_left]
  · obtain ⟨hstart, -⟩ := place_eq_some_iff.1 hword
    have hblock : 2 ^ w * (v - low).toNat < 2 ^ w * length.toNat :=
      calc
        2 ^ w * (v - low).toNat ≤ length.toNat * word.toNat := hstart
        _ < length.toNat * 2 ^ w := Nat.mul_lt_mul_of_pos_left word.isLt hpos
        _ = 2 ^ w * length.toNat := Nat.mul_comm ..
    exact Nat.lt_of_mul_lt_mul_left hblock

/-- An interval that does not hold every word is one longer than its ends are apart. -/
theorem toNat_span {low high : BitVec w} (h : span low high ≠ 0) :
    (span low high).toNat = (high - low).toNat + 1 := by
  have hlt := (high - low).isLt
  have hspan : (span low high).toNat = ((high - low).toNat + 1) % 2 ^ w := by
    rw [span, BitVec.toNat_add]
    show (_ + (BitVec.ofNat w 1).toNat) % _ = _
    rw [BitVec.toNat_ofNat, Nat.add_mod_mod]
  by_cases hfull : (high - low).toNat + 1 = 2 ^ w
  · rw [hfull, Nat.mod_self] at hspan
    exact absurd (BitVec.eq_of_toNat_eq hspan) h
  · rw [hspan, Nat.mod_eq_of_lt (by omega)]

/-- **Even shares.** With either zone, the values between two bounds stand for the same number of
words each, at least one, and no word stands for a value that is not between them. -/
theorem sharedEvenly_trial {zone : BitVec w → BitVec w} (hzone : EvenZone zone)
    (low high : BitVec w) :
    SharedEvenly (trial zone low high) fun v => v - low ≤ high - low := by
  by_cases hspan : span low high = 0
  · -- every word stands for itself
    have htrial : trial zone low high = some := funext fun word => if_pos hspan
    have hall : high - low = BitVec.allOnes w := by
      rw [← BitVec.neg_one_eq_allOnes]
      exact eq_neg_of_add_eq_zero_left hspan
    rw [htrial, hall]
    refine ⟨⟨1, Nat.one_pos, fun v _ => ?_⟩, fun word v _ => ?_⟩
    · simp [Finset.filter_eq']
    · show v - low ≤ BitVec.allOnes w
      rw [BitVec.le_def, BitVec.toNat_allOnes]
      exact Nat.le_sub_one_of_lt (v - low).isLt
  · have htrial : trial zone low high = place (zone (span low high)) low (span low high) :=
      funext fun word => if_neg hspan
    obtain ⟨share, hshare, heven⟩ := hzone (span low high) hspan
    rw [htrial]
    refine (sharedEvenly_place hspan hshare heven).congr fun v => ?_
    rw [toNat_span hspan, BitVec.le_def, Nat.lt_succ_iff]

/-! ## Between two bounds -/

theorem toNat_sub_of_lt {x y : BitVec w} (h : x.toNat < y.toNat) :
    (x - y).toNat = 2 ^ w + x.toNat - y.toNat := by
  have hlt := y.isLt
  rw [BitVec.toNat_sub, Nat.mod_eq_of_lt (by omega)]
  omega

/-- For unsigned bounds in order, the values between them are those of the usual order. -/
theorem sub_le_sub_iff_of_le {low high v : BitVec w} (h : low ≤ high) :
    v - low ≤ high - low ↔ low ≤ v ∧ v ≤ high := by
  rw [BitVec.le_def, BitVec.toNat_sub_of_le h]
  have hhigh := high.isLt
  rw [BitVec.le_def] at h
  by_cases hv : low ≤ v
  · rw [BitVec.toNat_sub_of_le hv]
    rw [BitVec.le_def] at hv ⊢
    rw [BitVec.le_def]
    omega
  · rw [BitVec.le_def] at hv ⊢
    rw [toNat_sub_of_lt (Nat.lt_of_not_le hv)]
    omega

/-- For signed bounds in order, they are those of the signed order. -/
theorem sub_le_sub_iff_of_toInt_le {low high v : BitVec w} (h : low.toInt ≤ high.toInt) :
    v - low ≤ high - low ↔ low.toInt ≤ v.toInt ∧ v.toInt ≤ high.toInt := by
  have hlow := low.isLt
  have hv := v.isLt
  have hhigh := high.isLt
  have htoNat : ∀ x : BitVec w, (x - low).toNat =
      if low.toNat ≤ x.toNat then x.toNat - low.toNat else 2 ^ w + x.toNat - low.toNat := by
    intro x
    split
    next hle => exact BitVec.toNat_sub_of_le hle
    next hlt => exact toNat_sub_of_lt (Nat.lt_of_not_le hlt)
  rw [BitVec.le_def, htoNat, htoNat]
  simp only [BitVec.toInt_eq_toNat_cond] at h ⊢
  split <;> split <;> omega

end Tabletop.Random
