import Tabletop.Proofs.Term

/-!
# Texts of terms, and what is wrong with the others

A word of notation holds no signs, but a term can be read from any text, and then its numbers may
have signs of their own: one number on its own a plus or a minus (`Numeral.Signed`), each number of
dice a plus (`Numeral.Unsigned`). The two kinds of text have nothing in common, since there is a `d`
in the one and none in the other (`Dice.Spelled.not_signed`).

All other texts are refused as dice, whatever they were meant to be, and for the first thing that is
wrong with them from the left (`Dice.Refused`): that there is no `d`, or else the number in front of
the first one, or else all that stands behind it. That every text which is not dice is refused for
exactly one of the three is `Dice.read_eq_error_iff`, and with what numbers add to it

> `Term.read_classified`: every text is a number, or dice, or has a fault, and is read accordingly.
-/

namespace Tabletop

/-! ## Numbers with signs of their own -/

namespace Numeral

/-- A text of a natural number: digits that denote it, with or without a plus. -/
inductive Unsigned : List Char → Nat → Prop where
  | plain {digits : List Char} {n : Nat} : Denotes digits n → Unsigned digits n
  | plus {digits : List Char} {n : Nat} : Denotes digits n → Unsigned ('+' :: digits) n

/-- A text of an integer: digits with or without a sign, of which a minus takes the opposite. -/
inductive Signed : List Char → Int → Prop where
  | plain {digits : List Char} {n : Nat} : Denotes digits n → Signed digits n
  | plus {digits : List Char} {n : Nat} : Denotes digits n → Signed ('+' :: digits) n
  | minus {digits : List Char} {n : Nat} : Denotes digits n → Signed ('-' :: digits) (-n)

theorem readUInt32_eq_ok_iff_unsigned {text : List Char} {v : UInt32} :
    readUInt32 text = .ok v ↔ Unsigned text v.toNat := by
  rw [readUInt32_eq_ok_iff]
  refine ⟨fun ⟨digits, htext, hd⟩ => ?_, fun h => ?_⟩
  · rcases htext with rfl | rfl
    · exact .plain hd
    · exact .plus hd
  · cases h with
    | plain hd => exact ⟨_, .inl rfl, hd⟩
    | plus hd => exact ⟨_, .inr rfl, hd⟩

theorem readInt64_eq_ok_iff_signed {text : List Char} {v : Int64} :
    readInt64 text = .ok v ↔ Signed text v.toInt := by
  rw [readInt64_eq_ok_iff]
  refine ⟨fun h => ?_, fun h => ?_⟩
  · rcases h with ⟨digits, n, rfl | rfl, hd, hv⟩ | ⟨digits, n, rfl, hd, hv⟩
    · rw [hv]
      exact .plain hd
    · rw [hv]
      exact .plus hd
    · rw [hv]
      exact .minus hd
  · generalize hv : v.toInt = n at h
    cases h with
    | plain hd => exact .inl ⟨_, _, .inl rfl, hd, rfl⟩
    | plus hd => exact .inl ⟨_, _, .inr rfl, hd, rfl⟩
    | minus hd => exact .inr ⟨_, _, rfl, hd, rfl⟩

theorem Signed.not_mem {text : List Char} {n : Int} (h : Signed text n) : 'd' ∉ text := by
  cases h with
  | plain hd => exact hd.not_mem
  | plus hd => simp [hd.not_mem]
  | minus hd => simp [hd.not_mem]

/-- A text is no unsigned number exactly when there is a fault in reading it. -/
theorem exists_readUInt32_eq_error_iff {text : List Char} :
    (∃ fault, readUInt32 text = .error fault) ↔ ∀ v : UInt32, ¬Unsigned text v.toNat := by
  cases hr : readUInt32 text with
  | ok v =>
    refine iff_of_false (fun ⟨_, h⟩ => nomatch h) fun h => ?_
    exact h v (readUInt32_eq_ok_iff_unsigned.1 hr)
  | error fault =>
    refine iff_of_true ⟨fault, rfl⟩ fun v h => ?_
    rw [readUInt32_eq_ok_iff_unsigned.2 h] at hr
    cases hr

end Numeral

open Numeral (Signed Unsigned)

/-! ## Dice, and texts that are none -/

namespace Dice

/-- A text of dice: two numbers with a `d` between them. -/
inductive Spelled : List Char → Dice → Prop where
  | mk {left right : List Char} {d : Dice} :
    Unsigned left d.repetitions.toNat → Unsigned right d.faces.toNat →
      Spelled (left ++ 'd' :: right) d

/-- What is wrong with a text that is no dice. The texts around the first `d` are looked at one after
the other, and the fault of a number is the one it is refused for on its own. -/
inductive Refused : List Char → Fault → Prop where
  /-- There is no `d`. -/
  | noDelimiter {text : List Char} : 'd' ∉ text → Refused text .noDelimiter
  /-- There is no number in front of the first `d`, whatever stands behind it. -/
  | repetitions {left right : List Char} {fault : Numeral.Fault} :
    'd' ∉ left → (∀ n : UInt32, ¬Unsigned left n.toNat) →
      Numeral.readUInt32 left = .error fault →
        Refused (left ++ 'd' :: right) (.repetitions fault)
  /-- There is a number in front of the first `d`, and none behind it. -/
  | faces {left right : List Char} {m : UInt32} {fault : Numeral.Fault} :
    'd' ∉ left → Unsigned left m.toNat → (∀ n : UInt32, ¬Unsigned right n.toNat) →
      Numeral.readUInt32 right = .error fault → Refused (left ++ 'd' :: right) (.faces fault)

theorem read_eq_ok_iff_spelled {text : List Char} {d : Dice} :
    read text = .ok d ↔ Spelled text d := by
  rw [read_eq_ok_iff]
  refine ⟨fun ⟨left, right, htext, hl, hr⟩ => ?_, fun h => ?_⟩
  · rw [htext]
    exact .mk (Numeral.readUInt32_eq_ok_iff_unsigned.1 hl)
      (Numeral.readUInt32_eq_ok_iff_unsigned.1 hr)
  · cases h with
    | mk hl hr =>
      exact ⟨_, _, rfl, Numeral.readUInt32_eq_ok_iff_unsigned.2 hl,
        Numeral.readUInt32_eq_ok_iff_unsigned.2 hr⟩

/-- There is a `d` in dice, and none in a number. -/
theorem Spelled.not_signed {text : List Char} {d : Dice} (h : Spelled text d) (n : Int) :
    ¬Signed text n := by
  intro hn
  cases h with
  | mk _ _ => exact hn.not_mem (List.mem_append_right _ List.mem_cons_self)

/-- A text is refused for what is wrong with it. -/
theorem read_eq_error_iff {text : List Char} {fault : Fault} :
    read text = .error fault ↔ Refused text fault := by
  refine ⟨fun h => ?_, fun h => ?_⟩
  · by_cases hd : 'd' ∈ text
    · obtain ⟨left, right, rfl, hleft⟩ := List.eq_append_cons_of_mem hd
      rw [read_split hleft] at h
      split at h
      next fault' hl =>
        cases h
        exact .repetitions hleft (Numeral.exists_readUInt32_eq_error_iff.1 ⟨_, hl⟩) hl
      next m hl =>
        split at h
        next fault' hr =>
          cases h
          exact .faces hleft (Numeral.readUInt32_eq_ok_iff_unsigned.1 hl)
            (Numeral.exists_readUInt32_eq_error_iff.1 ⟨_, hr⟩) hr
        next => cases h
    · rw [read_of_not_mem hd] at h
      cases h
      exact .noDelimiter hd
  · cases h with
    | noDelimiter hd => exact read_of_not_mem hd
    | repetitions hd _ hl => rw [read_split hd, hl]
    | faces hd hl _ hr => rw [read_split hd, Numeral.readUInt32_eq_ok_iff_unsigned.2 hl, hr]

end Dice

/-! ## Terms -/

namespace Term

theorem read_eq_ok_constant_iff {text : List Char} {v : Int64} :
    read text = .ok (constant v) ↔ Signed text v.toInt := by
  rw [read_eq_ok_iff, ← Numeral.readInt64_eq_ok_iff_signed]
  refine ⟨fun h => ?_, fun h => .inl ⟨v, h, rfl⟩⟩
  rcases h with ⟨w, hw, heq⟩ | ⟨d, -, heq⟩
  · rw [Term.constant.inj heq]
    exact hw
  · cases heq

theorem read_eq_ok_dice_iff {text : List Char} {d : Dice} :
    read text = .ok (dice d) ↔ Dice.Spelled text d := by
  rw [read_eq_ok_iff, ← Dice.read_eq_ok_iff_spelled]
  refine ⟨fun h => ?_, fun h => .inr ⟨d, h, rfl⟩⟩
  rcases h with ⟨v, -, heq⟩ | ⟨d', hd, heq⟩
  · cases heq
  · rw [Term.dice.inj heq]
    exact hd

/-- A text that is no number is read as dice. -/
theorem read_of_not_signed {text : List Char} (h : ∀ v : Int64, ¬Signed text v.toInt) :
    read text = (Dice.read text).map dice := by
  unfold read
  split
  next v hv => exact absurd (Numeral.readInt64_eq_ok_iff_signed.1 hv) (h v)
  next => rfl

/-- So what is wrong with a text that is no term is what is wrong with it as dice. -/
theorem read_eq_error_iff {text : List Char} {fault : Dice.Fault} :
    read text = .error fault ↔ (∀ v : Int64, ¬Signed text v.toInt) ∧ Dice.Refused text fault := by
  have hmap : (Dice.read text).map dice = .error fault ↔ Dice.Refused text fault := by
    rw [← Dice.read_eq_error_iff]
    cases Dice.read text with
    | error fault' => simp [Except.map]
    | ok d => exact ⟨fun h => (nomatch h), fun h => (nomatch h)⟩
  refine ⟨fun h => ?_, fun ⟨hnone, hfault⟩ => ?_⟩
  · have hnone : ∀ v : Int64, ¬Signed text v.toInt := by
      intro v hv
      rw [read_eq_ok_constant_iff.2 hv] at h
      cases h
    rw [read_of_not_signed hnone] at h
    exact ⟨hnone, hmap.1 h⟩
  · rw [read_of_not_signed hnone]
    exact hmap.2 hfault

/-- **Every text is a number, or dice, or has a fault.** A text is read as a constant exactly when it
is digits with or without a sign that denote the constant, and as dice exactly when it is two numbers
of dice, each with or without a plus, with a `d` between them; no text is both. Every other text is
refused, for the first thing that is wrong with it from the left. As dice alone, a text is read in the
same way unless it is a constant, and then it lacks the `d`. And terms and dice are read back from
their written forms, whatever their numbers are. -/
theorem read_classified (text : List Char) :
    (∀ v, read text = .ok (constant v) ↔ Signed text v.toInt) ∧
    (∀ d, read text = .ok (dice d) ↔ Dice.Spelled text d) ∧
    (∀ d n, Dice.Spelled text d → ¬Signed text n) ∧
    (∀ fault, read text = .error fault ↔
      (∀ v : Int64, ¬Signed text v.toInt) ∧ Dice.Refused text fault) ∧
    ((∀ v : Int64, ¬Signed text v.toInt) → read text = (Dice.read text).map dice) ∧
    (∀ v : Int64, Signed text v.toInt → Dice.read text = .error .noDelimiter) ∧
    (∀ t : Term, read t.text = .ok t) ∧ ∀ d : Dice, Dice.read d.text = .ok d := by
  refine ⟨fun v => read_eq_ok_constant_iff, fun d => read_eq_ok_dice_iff,
    fun d n h => h.not_signed n, fun fault => read_eq_error_iff, read_of_not_signed, ?_,
    read_text, Dice.read_text⟩
  intro v hv
  exact Dice.read_of_not_mem hv.not_mem

end Term

end Tabletop
