import Mathlib.Algebra.Order.Ring.Int
import Tabletop.Proofs.Numeral
import Tabletop.Term

/-!
# The texts of terms

`Term.Notated text t` is the notation of a term as a rule of its own: digits for a constant, digits
around the letter `d` for dice, each number within its own limit. It says nothing about signs, which
no word of a scanned text contains, and for words without signs it is what the reader accepts:

> `read_word_eq_ok_iff`: a word without signs is read as `t` exactly when it notates `t`.

The reader tries a number first and dice second. The two never compete, since what is read as dice
contains a `d` and what is read as a number does not (`read_eq_ok_iff`). A term that is no negative
constant is written in its own notation (`notated_text`); a negative one is not, because of its
minus, and no text notates it at all (`Notated.not_isNegative`).
-/

namespace Tabletop

open Numeral (Denotes)

namespace Dice

/-- The reader passes over a text without a `d`. -/
theorem forall_ne_of_not_mem {text : List Char} (h : 'd' ∉ text) :
    ∀ c ∈ text, (c != 'd') = true := by
  intro c hc
  rw [bne_iff_ne]
  intro heq
  rw [heq] at hc
  exact h hc

/-- Reading looks at the halves before and after the first `d`. -/
theorem read_split {left right : List Char} (h : 'd' ∉ left) :
    read (left ++ 'd' :: right) =
      match Numeral.readUInt32 left with
      | .error fault => .error (.repetitions fault)
      | .ok repetitions =>
        match Numeral.readUInt32 right with
        | .error fault => .error (.faces fault)
        | .ok faces => .ok ⟨repetitions, faces⟩ := by
  have hleft := forall_ne_of_not_mem h
  have hdrop : (left ++ 'd' :: right).dropWhile (· != 'd') = 'd' :: right := by
    rw [List.dropWhile_append_of_pos hleft, List.dropWhile_cons_of_neg (by decide)]
  have htake : (left ++ 'd' :: right).takeWhile (· != 'd') = left := by
    rw [List.takeWhile_append_of_pos hleft, List.takeWhile_cons_of_neg (by decide),
      List.append_nil]
  cases hl : Numeral.readUInt32 left with
  | error fault => simp only [read, hdrop, htake, hl]
  | ok repetitions =>
    cases hr : Numeral.readUInt32 right with
    | error fault => simp only [read, hdrop, htake, hl, hr]
    | ok faces => simp only [read, hdrop, htake, hl, hr]

/-- Without a `d` there is nothing to read. -/
theorem read_of_not_mem {text : List Char} (h : 'd' ∉ text) : read text = .error .noDelimiter := by
  have hdrop : text.dropWhile (· != 'd') = [] := by
    rw [← List.append_nil text, List.dropWhile_append_of_pos (forall_ne_of_not_mem h)]
    rfl
  unfold read
  rw [hdrop]

/-- Dice are read from two unsigned numbers with a `d` between them. -/
theorem read_eq_ok_iff {text : List Char} {d : Dice} :
    read text = .ok d ↔
      ∃ left right, text = left ++ 'd' :: right ∧
        Numeral.readUInt32 left = .ok d.repetitions ∧ Numeral.readUInt32 right = .ok d.faces := by
  refine ⟨fun h => ?_, fun ⟨left, right, htext, hl, hr⟩ => ?_⟩
  · by_cases hd : 'd' ∈ text
    · obtain ⟨left, right, rfl, hleft⟩ := List.eq_append_cons_of_mem hd
      rw [read_split hleft] at h
      split at h
      next => cases h
      next hl =>
        split at h
        next => cases h
        next hr =>
          cases h
          exact ⟨left, right, rfl, hl, hr⟩
    · rw [read_of_not_mem hd] at h
      cases h
  · rw [htext, read_split (Numeral.not_mem_of_readUInt32 hl), hl, hr]

/-- Dice are read back from their written form. -/
theorem read_text (d : Dice) : read d.text = .ok d :=
  read_eq_ok_iff.2
    ⟨_, _, rfl, Numeral.readUInt32_ofUInt32 d.repetitions, Numeral.readUInt32_ofUInt32 d.faces⟩

end Dice

namespace Term

/-- A text is read as a number if it is one, and as dice if it is some. -/
theorem read_eq_ok_iff {text : List Char} {t : Term} :
    read text = .ok t ↔
      (∃ v, Numeral.readInt64 text = .ok v ∧ t = constant v) ∨
        ∃ d, Dice.read text = .ok d ∧ t = dice d := by
  unfold read
  split
  next v hv =>
    -- a number holds no `d`, so it is no dice
    have hdice : ¬∃ d, Dice.read text = .ok d ∧ t = dice d := by
      intro ⟨d, hd, _⟩
      obtain ⟨left, right, rfl, -⟩ := Dice.read_eq_ok_iff.1 hd
      exact Numeral.not_mem_of_readInt64 hv (by simp)
    rw [or_iff_left hdice, Except.ok.injEq]
    refine ⟨fun h => ⟨v, hv, h.symm⟩, fun ⟨w, hw, ht⟩ => ?_⟩
    rw [hv, Except.ok.injEq] at hw
    rw [hw, ht]
  next fault hf =>
    have hconstant : ¬∃ v, Numeral.readInt64 text = .ok v ∧ t = constant v := by
      intro ⟨v, hv, _⟩
      rw [hf] at hv
      cases hv
    rw [or_iff_right hconstant]
    cases hd : Dice.read text with
    | error fault => simp [Except.map]
    | ok d => simp [Except.map, eq_comm]

/-! ## Notation -/

/-- The notation of terms: digits worth a signed 64-bit number, or two runs of digits, worth an
unsigned 32-bit number each, with a `d` between them. -/
inductive Notated : List Char → Term → Prop where
  | constant {digits : List Char} {n : Nat} :
    Denotes digits n → n ≤ 2 ^ 63 - 1 → Notated digits (constant (Int64.ofInt n))
  | dice {repetitions faces : List Char} {m n : Nat} :
    Denotes repetitions m → m ≤ 2 ^ 32 - 1 → Denotes faces n → n ≤ 2 ^ 32 - 1 →
      Notated (repetitions ++ 'd' :: faces) (dice ⟨UInt32.ofNat m, UInt32.ofNat n⟩)

/-- A term is notated with digits and the letter `d` only. -/
theorem Notated.isDigit_or_eq {text : List Char} {t : Term} (h : Notated text t) :
    ∀ c ∈ text, c.isDigit = true ∨ c = 'd' := by
  intro c hc
  cases h with
  | constant hd => exact .inl (hd.isDigit c hc)
  | dice hm _ hn _ =>
    rcases List.mem_append.mp hc with hl | hr
    · exact .inl (hm.isDigit c hl)
    · rcases List.mem_cons.mp hr with rfl | hr
      · exact .inr rfl
      · exact .inl (hn.isDigit c hr)

/-- A term is never notated by nothing. -/
theorem Notated.ne_nil {text : List Char} {t : Term} (h : Notated text t) : text ≠ [] := by
  cases h with
  | constant hd => exact hd.ne_nil
  | dice => simp

/-- A constant below zero. -/
def IsNegative : Term → Prop
  | constant value => value.toInt < 0
  | dice _ => False

instance : DecidablePred IsNegative
  | constant value => inferInstanceAs (Decidable (value.toInt < 0))
  | dice _ => inferInstanceAs (Decidable False)

/-- A negative constant has no notation. -/
theorem Notated.not_isNegative {text : List Char} {t : Term} (h : Notated text t) :
    ¬t.IsNegative := by
  cases h with
  | @constant _ n hd hn =>
    show ¬(Int64.ofInt n).toInt < 0
    rw [Checked.toInt_ofInt_of_inRange (Checked.inRange_natCast (by omega))]
    omega
  | dice => exact not_false

/-- A text without signs is read as an unsigned number exactly when its digits denote it. -/
theorem readUInt32_eq_ok_iff_denotes {text : List Char}
    (hs : ∀ c ∈ text, Sign.ofChar? c = none) {v : UInt32} :
    Numeral.readUInt32 text = .ok v ↔ Denotes text v.toNat := by
  rw [Numeral.readUInt32_eq_ok_iff]
  refine ⟨fun ⟨digits, htext, hd⟩ => ?_, fun hd => ⟨text, .inl rfl, hd⟩⟩
  rcases htext with rfl | rfl
  · exact hd
  · cases hs '+' (List.mem_cons_self ..)

/-- A text without signs is read as a term exactly when it notates the term. -/
theorem read_word_eq_ok_iff {text : List Char} (hs : ∀ c ∈ text, Sign.ofChar? c = none)
    {t : Term} : read text = .ok t ↔ Notated text t := by
  rw [read_eq_ok_iff]
  refine ⟨fun h => ?_, fun h => ?_⟩
  · rcases h with ⟨v, hv, rfl⟩ | ⟨d, hd, rfl⟩
    · have hhi := Int64.toInt_lt v
      obtain ⟨digits, n, rfl | rfl, hd, hn⟩ | ⟨digits, n, rfl, -⟩ :=
        Numeral.readInt64_eq_ok_iff.1 hv
      · have hlt : n < 2 ^ 63 := by omega
        rw [← (Checked.ofInt_eq_iff (Checked.inRange_natCast hlt)).2 hn]
        exact .constant hd (by omega)
      · cases hs '+' (List.mem_cons_self ..)
      · cases hs '-' (List.mem_cons_self ..)
    · -- neither half can start with a plus
      obtain ⟨left, right, rfl, hl, hr⟩ := Dice.read_eq_ok_iff.1 hd
      obtain ⟨repetitions, faces⟩ := d
      rw [readUInt32_eq_ok_iff_denotes fun c hc => hs c (List.mem_append_left _ hc)] at hl
      rw [readUInt32_eq_ok_iff_denotes fun c hc =>
        hs c (List.mem_append_right _ (List.mem_cons_of_mem _ hc))] at hr
      have hm := repetitions.toNat_lt
      have hn := faces.toNat_lt
      rw [← repetitions.ofNat_toNat, ← faces.ofNat_toNat]
      exact .dice hl (by omega) hr (by omega)
  · cases h with
    | @constant _ n hd hn =>
      have hv := Checked.toInt_ofInt_of_inRange (Checked.inRange_natCast (n := n) (by omega))
      exact .inl ⟨_, Numeral.readInt64_eq_ok_iff.2 (.inl ⟨text, n, .inl rfl, hd, hv⟩), rfl⟩
    | @dice left right m n hl hm hr hn =>
      have hl' : Denotes left (UInt32.ofNat m).toNat := by
        rw [UInt32.toNat_ofNat_of_lt' (Nat.lt_of_le_of_lt hm (by decide))]
        exact hl
      have hr' : Denotes right (UInt32.ofNat n).toNat := by
        rw [UInt32.toNat_ofNat_of_lt' (Nat.lt_of_le_of_lt hn (by decide))]
        exact hr
      exact .inr ⟨_, Dice.read_eq_ok_iff.2 ⟨left, right, rfl,
        Numeral.readUInt32_eq_ok_iff.2 ⟨left, .inl rfl, hl'⟩,
        Numeral.readUInt32_eq_ok_iff.2 ⟨right, .inl rfl, hr'⟩⟩, rfl⟩

/-! ## Writing -/

/-- A term that is no negative constant is written in its own notation. -/
theorem notated_text {t : Term} (h : ¬t.IsNegative) : Notated t.text t := by
  cases t with
  | constant v =>
    have hlt := Int64.toInt_lt v
    have hnonneg : 0 ≤ v.toInt := Int.not_lt.mp h
    obtain ⟨n, hn⟩ := Int.eq_ofNat_of_zero_le hnonneg
    have hlt' : n < 2 ^ 63 := by omega
    have htext : (constant v).text = Numeral.ofNat n := by
      show Numeral.ofInt v.toInt = _
      rw [hn]
      rfl
    rw [htext, ← (Checked.ofInt_eq_iff (Checked.inRange_natCast hlt')).2 hn]
    exact .constant (Numeral.denotes_ofNat n) (by omega)
  | dice d =>
    obtain ⟨repetitions, faces⟩ := d
    have hm := repetitions.toNat_lt
    have hn := faces.toNat_lt
    have h := Notated.dice (Numeral.denotes_ofNat repetitions.toNat) (by omega)
      (Numeral.denotes_ofNat faces.toNat) (by omega)
    rw [repetitions.ofNat_toNat, faces.ofNat_toNat] at h
    exact h

/-- A term is read back from its written form, negative constants included. -/
theorem read_text (t : Term) : read t.text = .ok t := by
  rw [read_eq_ok_iff]
  cases t with
  | constant v => exact .inl ⟨v, Numeral.readInt64_ofInt64 v, rfl⟩
  | dice d => exact .inr ⟨d, d.read_text, rfl⟩

/-- So no two terms are written alike. -/
theorem text_injective {t u : Term} (h : t.text = u.text) : t = u := by
  have ht := t.read_text
  rw [h, u.read_text] at ht
  exact (Except.ok.inj ht).symm

end Term

end Tabletop
