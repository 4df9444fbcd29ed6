import Tabletop.Checked
import Tabletop.Numeral

/-!
# What a numeral denotes

The specification side of `Numeral`: `Denotes digits n` says that a run of at least one digit is
worth `n`, leading zeros included. Reading is characterised by it in both directions:

> `readDigits_eq_ok_iff`: digits are read as `n` exactly when they denote `n` and `n` is within the
> bound.

The signed and the unsigned reader add what may stand in front (`readUInt32_eq_ok_iff`,
`readInt64_eq_ok_iff`); no bound is left in their statements, since that a machine number *is* the
value says that the value fits. Writing gives one of the runs that denote the number
(`denotes_ofNat`).
-/

namespace Tabletop.Numeral

/-- A run of at least one digit, and the number it is worth. -/
structure Denotes (digits : List Char) (n : Nat) : Prop where
  ne_nil : digits ≠ []
  isDigit : ∀ c ∈ digits, c.isDigit = true
  value : Nat.ofDigitChars 10 digits 0 = n

/-! ## Reading -/

/-- What is read at all is read as the value of the digits. -/
theorem value_of_readOnto {most : Nat} :
    ∀ {digits : List Char} {acc n : Nat}, readOnto most acc digits = .ok n →
      Nat.ofDigitChars 10 digits acc = n := by
  intro digits
  induction digits with
  | nil =>
    intro acc n h
    rw [readOnto, Except.ok.injEq] at h
    rw [Nat.ofDigitChars_nil, h]
  | cons c rest ih =>
    intro acc n h
    rw [readOnto] at h
    split at h
    · dsimp only at h
      split at h
      · rw [Nat.ofDigitChars_cons]
        exact ih h
      · cases h
    · cases h

/-- Digits are read exactly when they denote a number within the bound, and as that number. -/
theorem readDigits_eq_ok_iff {most n : Nat} {digits : List Char} :
    readDigits most digits = .ok n ↔ Denotes digits n ∧ n ≤ most := by
  cases digits with
  | nil => exact ⟨fun h => (nomatch h), fun h => absurd rfl h.1.ne_nil⟩
  | cons c rest =>
    show readOnto most 0 (c :: rest) = .ok n ↔ _
    refine ⟨fun h => ?_, fun ⟨hd, hle⟩ => ?_⟩
    · have hv := value_of_readOnto h
      rw [← hv] at h ⊢
      obtain ⟨hd, hle⟩ := (readOnto_eq_ok_iff (Nat.zero_le _)).1 h
      exact ⟨⟨by simp, hd, rfl⟩, hle⟩
    · have hv := hd.value
      rw [← hv] at hle ⊢
      exact (readOnto_eq_ok_iff (Nat.zero_le _)).2 ⟨hd.isDigit, hle⟩

/-- A digit is none of the two characters that can stand in front of a numeral. -/
theorem Denotes.ne_of_mem {digits : List Char} {n : Nat} (h : Denotes digits n) {c : Char}
    (hc : c ∈ digits) : c ≠ '+' ∧ c ≠ '-' := by
  have hd := h.isDigit c hc
  refine ⟨fun heq => ?_, fun heq => ?_⟩
  · rw [heq] at hd
    cases hd
  · rw [heq] at hd
    cases hd

/-- Nor is it a letter. -/
theorem Denotes.not_mem {digits : List Char} {n : Nat} (h : Denotes digits n) : 'd' ∉ digits :=
  fun hc => absurd (h.isDigit 'd' hc) (by decide)

/-- A text that does not start with a plus is read as digits. -/
theorem readNat_of_head_ne {most : Nat} {c : Char} {rest : List Char} (h : c ≠ '+') :
    readNat most (c :: rest) = readDigits most (c :: rest) := by
  rw [readNat]
  · simp
  · intro digits heq
    exact h (List.cons.inj heq).1

/-- A natural number is read from digits, with or without a plus in front. -/
theorem readNat_eq_ok_iff {most n : Nat} {text : List Char} :
    readNat most text = .ok n ↔
      ∃ digits, (text = digits ∨ text = '+' :: digits) ∧ Denotes digits n ∧ n ≤ most := by
  cases text with
  | nil =>
    refine ⟨fun h => (nomatch h), fun ⟨digits, htext, hd, _⟩ => ?_⟩
    rcases htext with rfl | h
    · exact absurd rfl hd.ne_nil
    · cases h
  | cons c rest =>
    by_cases hc : c = '+'
    · subst hc
      show readDigits most rest = .ok n ↔ _
      rw [readDigits_eq_ok_iff]
      refine ⟨fun h => ⟨rest, .inr rfl, h⟩, fun ⟨digits, htext, hd⟩ => ?_⟩
      rcases htext with rfl | h
      · exact absurd rfl (hd.1.ne_of_mem (List.mem_cons_self ..)).1
      · rw [(List.cons.inj h).2]
        exact hd
    · rw [readNat_of_head_ne hc, readDigits_eq_ok_iff]
      refine ⟨fun h => ⟨c :: rest, .inl rfl, h⟩, fun ⟨digits, htext, hd⟩ => ?_⟩
      rcases htext with rfl | h
      · exact hd
      · exact absurd (List.cons.inj h).1 hc

/-- An unsigned number is read from digits that denote it. -/
theorem readUInt32_eq_ok_iff {text : List Char} {v : UInt32} :
    readUInt32 text = .ok v ↔
      ∃ digits, (text = digits ∨ text = '+' :: digits) ∧ Denotes digits v.toNat := by
  have hmap : readUInt32 text = .ok v ↔ readNat 0xffffffff text = .ok v.toNat := by
    unfold readUInt32
    cases hr : readNat 0xffffffff text with
    | error fault => simp [Except.map]
    | ok n =>
      -- storing what is within the bound loses nothing
      obtain ⟨digits, -, -, hle⟩ := readNat_eq_ok_iff.1 hr
      have hlt : n < UInt32.size := Nat.lt_succ_of_le hle
      show (.ok (UInt32.ofNat n) : Except Fault UInt32) = .ok v ↔ (.ok n : Except Fault Nat) = _
      rw [Except.ok.injEq, Except.ok.injEq, ← UInt32.toNat_inj, UInt32.toNat_ofNat_of_lt' hlt]
  have hlt := v.toNat_lt
  have hv : v.toNat ≤ 0xffffffff := by omega
  rw [hmap, readNat_eq_ok_iff]
  simp only [hv, and_true]

/-- A signed number is read from digits that denote it, or from a minus and digits that denote its
opposite. -/
theorem readInt64_eq_ok_iff {text : List Char} {v : Int64} :
    readInt64 text = .ok v ↔
      (∃ digits n, (text = digits ∨ text = '+' :: digits) ∧ Denotes digits n ∧ v.toInt = n) ∨
        ∃ digits n, text = '-' :: digits ∧ Denotes digits n ∧ v.toInt = -n := by
  have hlo := Int64.le_toInt v
  have hhi := Int64.toInt_lt v
  unfold readInt64
  split
  next rest =>
    -- a minus is neither a digit nor a plus
    have hplain : ¬∃ digits n, ('-' :: rest = digits ∨ '-' :: rest = '+' :: digits) ∧
        Denotes digits n ∧ v.toInt = n := by
      intro ⟨digits, n, htext, hd, _⟩
      rcases htext with rfl | h
      · exact (hd.ne_of_mem (List.mem_cons_self ..)).2 rfl
      · cases h
    rw [or_iff_right hplain]
    refine ⟨fun h => ?_, fun ⟨digits, n, heq, hd, hv⟩ => ?_⟩
    · split at h
      next n hr =>
        obtain ⟨hd, hle⟩ := readDigits_eq_ok_iff.1 hr
        have hin : Checked.InRange (-n) := ⟨by omega, by omega⟩
        exact ⟨rest, n, rfl, hd, (Checked.ofInt_eq_iff hin).1 (Except.ok.inj h)⟩
      next => cases h
      next => cases h
    · obtain ⟨-, rfl⟩ := List.cons.inj heq
      have hin : Checked.InRange (-n) := ⟨by omega, by omega⟩
      have hr : readDigits 0x8000000000000000 rest = .ok n := readDigits_eq_ok_iff.2 ⟨hd, by omega⟩
      rw [hr, ← (Checked.ofInt_eq_iff hin).2 hv]
  next hne =>
    have hminus : ¬∃ digits n, text = '-' :: digits ∧ Denotes digits n ∧ v.toInt = -n := by
      intro ⟨digits, n, h, _⟩
      exact hne digits h
    rw [or_iff_left hminus]
    refine ⟨fun h => ?_, fun ⟨digits, n, htext, hd, hv⟩ => ?_⟩
    · cases hr : readNat 0x7fffffffffffffff text with
      | error fault =>
        rw [hr] at h
        cases h
      | ok n =>
        rw [hr] at h
        obtain ⟨digits, htext, hd, hle⟩ := readNat_eq_ok_iff.1 hr
        have hin : Checked.InRange n := Checked.inRange_natCast (by omega)
        exact ⟨digits, n, htext, hd, (Checked.ofInt_eq_iff hin).1 (Except.ok.inj h)⟩
    · have hin : Checked.InRange n := Checked.inRange_natCast (by omega)
      have hr : readNat 0x7fffffffffffffff text = .ok n :=
        readNat_eq_ok_iff.2 ⟨digits, htext, hd, by omega⟩
      rw [hr, ← (Checked.ofInt_eq_iff hin).2 hv]
      rfl

/-- What is read as an unsigned number holds no letter. -/
theorem not_mem_of_readUInt32 {text : List Char} {v : UInt32} (h : readUInt32 text = .ok v) :
    'd' ∉ text := by
  obtain ⟨digits, rfl | rfl, hd⟩ := readUInt32_eq_ok_iff.1 h
  · exact hd.not_mem
  · simp [hd.not_mem]

/-- What is read as a signed number holds no letter. -/
theorem not_mem_of_readInt64 {text : List Char} {v : Int64} (h : readInt64 text = .ok v) :
    'd' ∉ text := by
  obtain ⟨digits, n, rfl | rfl, hd, -⟩ | ⟨digits, n, rfl, hd, -⟩ := readInt64_eq_ok_iff.1 h
  · exact hd.not_mem
  · simp [hd.not_mem]
  · simp [hd.not_mem]

/-! ## Writing -/

/-- A natural number is written as digits that denote it. -/
theorem denotes_ofNat (n : Nat) : Denotes (ofNat n) n where
  ne_nil := Nat.toDigits_ne_nil
  isDigit _ hc := Nat.isDigit_of_mem_toDigits (by decide) (by decide) hc
  value := Nat.ofDigitChars_ten_toDigits

theorem ofNat_injective {m n : Nat} (h : ofNat m = ofNat n) : m = n := by
  rw [← (denotes_ofNat m).value, h, (denotes_ofNat n).value]

/-- A zero alone, or digits of which the first is not zero. -/
def Plain (digits : List Char) : Prop := digits = ['0'] ∨ digits.head? ≠ some '0'

instance (digits : List Char) : Decidable (Plain digits) :=
  inferInstanceAs (Decidable (_ ∨ _))

theorem head?_ofNat_ne {n : Nat} (h : 0 < n) : (ofNat n).head? ≠ some '0' := by
  induction n using Nat.strongRecOn with
  | ind n ih =>
    by_cases hlt : n < 10
    · intro hhead
      rw [ofNat, Nat.toDigits_of_lt_base hlt] at hhead
      have hchar : n.digitChar.toNat = '0'.toNat := congrArg Char.toNat (Option.some.inj hhead)
      rw [Nat.toNat_digitChar_of_lt_ten hlt] at hchar
      have hzero : '0'.toNat = 48 := rfl
      omega
    · -- what stands in front of the last digit is a number of its own
      have hsplit : ofNat n = ofNat (n / 10) ++ [(n % 10).digitChar] :=
        Nat.toDigits_of_base_le (by decide) (Nat.le_of_not_lt hlt)
      have hfirst := ih (n / 10) (by omega) (by omega)
      rw [hsplit]
      cases hfront : ofNat (n / 10) with
      | nil => exact absurd hfront Nat.toDigits_ne_nil
      | cons c front =>
        rw [hfront] at hfirst
        exact hfirst

/-- No leading zeros are written. -/
theorem plain_ofNat (n : Nat) : Plain (ofNat n) := by
  cases n with
  | zero => exact .inl (Nat.toDigits_zero 10)
  | succ n => exact .inr (head?_ofNat_ne (Nat.succ_pos n))

theorem digit_lt_ten {c : Char} (h : c.isDigit = true) : c.toNat - '0'.toNat < 10 := by
  simp only [Char.isDigit, Bool.and_eq_true, decide_eq_true_eq, UInt32.le_iff_toNat_le] at h
  have hhi : c.toNat ≤ '9'.toNat := h.2
  have hnine : '9'.toNat = '0'.toNat + 9 := rfl
  omega

/-- A digit is written for its value. -/
theorem ofNat_digit {c : Char} (h : c.isDigit = true) : ofNat (c.toNat - '0'.toNat) = [c] := by
  have hlt := digit_lt_ten h
  simp only [Char.isDigit, Bool.and_eq_true, decide_eq_true_eq, ge_iff_le,
    UInt32.le_iff_toNat_le] at h
  have hlo : '0'.toNat ≤ c.toNat := h.1
  have hchar : (c.toNat - '0'.toNat).digitChar = c := by
    rw [← Char.toNat_inj, Nat.toNat_digitChar_of_lt_ten hlt]
    exact Nat.add_sub_cancel' hlo
  rw [ofNat, Nat.toDigits_of_lt_base hlt, hchar]

/-- Digits behind a written number go on writing it. -/
theorem ofNat_append {acc : Nat} {digits : List Char} (hacc : 0 < acc)
    (hd : ∀ c ∈ digits, c.isDigit = true) :
    ofNat acc ++ digits = ofNat (Nat.ofDigitChars 10 digits acc) := by
  induction digits generalizing acc with
  | nil => rw [List.append_nil, Nat.ofDigitChars_nil]
  | cons c digits ih =>
    obtain ⟨hc, hdigits⟩ := List.forall_mem_cons.mp hd
    calc
      ofNat acc ++ c :: digits
        = ofNat acc ++ ofNat (c.toNat - '0'.toNat) ++ digits := by
          rw [ofNat_digit hc, List.append_assoc]
          rfl
      _ = ofNat (10 * acc + (c.toNat - '0'.toNat)) ++ digits := by
          rw [ofNat, ofNat, Nat.toDigits_append_toDigits (by decide) hacc (digit_lt_ten hc)]
          rfl
      _ = ofNat (Nat.ofDigitChars 10 (c :: digits) acc) := by
          rw [ih (by omega) hdigits, Nat.ofDigitChars_cons]

/-- Digits without leading zeros are those that are written for the number they denote. -/
theorem Denotes.ofNat_eq {digits : List Char} {n : Nat} (h : Denotes digits n)
    (hp : Plain digits) : ofNat n = digits := by
  rw [← h.value]
  rcases hp with rfl | hhead
  · exact Nat.toDigits_zero 10
  · cases digits with
    | nil => exact absurd rfl h.ne_nil
    | cons c digits =>
      obtain ⟨hc, hdigits⟩ := List.forall_mem_cons.mp h.isDigit
      have hpos : 0 < c.toNat - '0'.toNat := by
        refine Nat.pos_of_ne_zero fun hzero => hhead ?_
        have hc' := ofNat_digit hc
        rw [hzero] at hc'
        exact congrArg List.head? hc'.symm
      rw [Nat.ofDigitChars_cons, Nat.mul_zero, Nat.zero_add, ← ofNat_append hpos hdigits,
        ofNat_digit hc]
      rfl

/-- The opposite of a positive number is written with a minus in front. -/
theorem ofInt_neg {n : Int} (h : 0 < n) : ofInt (-n) = '-' :: ofInt n := by
  obtain ⟨m, rfl⟩ := Int.eq_succ_of_zero_lt h
  rfl

/-- An unsigned number is read back from its written form. -/
theorem readUInt32_ofUInt32 (n : UInt32) : readUInt32 (ofUInt32 n) = .ok n :=
  readUInt32_eq_ok_iff.2 ⟨_, .inl rfl, denotes_ofNat _⟩

/-- So is a signed one, its minus included. -/
theorem readInt64_ofInt64 (v : Int64) : readInt64 (ofInt64 v) = .ok v := by
  rw [readInt64_eq_ok_iff]
  unfold ofInt64
  cases hv : v.toInt with
  | ofNat n => exact .inl ⟨ofNat n, n, .inl rfl, denotes_ofNat n, rfl⟩
  | negSucc n => exact .inr ⟨ofNat (n + 1), n + 1, rfl, denotes_ofNat (n + 1), rfl⟩

end Tabletop.Numeral
