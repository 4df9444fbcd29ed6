import Tabletop.Proofs.Description
import Tabletop.Proofs.RoundTrip

/-!
# Texts that are their own description

To read a text and describe what was read is to normalise it: blanks, capitals, a plus at the front
and leading zeros go, and nothing else does, so that the description is read as the same expression
again. The texts that stay as they are can be told without reading them. Their numerals, the longest
runs of digits (`Numeral.runs`), have no leading zeros (`Numeral.Plain`), and the rest of the
conditions is about single characters:

> `Expr.read_description_of_read`: a text that is read is its own description exactly when it holds
> no blank and no `D`, does not start with a plus, and all its numerals are plain.

In one direction, all numerals that are written are plain, those of negative constants included
(`Expr.plain_of_mem_runs_text`). In the other, a text whose numerals are plain is written again sign
by sign and term by term (`SignedTerm.Row.flatMap_text`), since there is one plain numeral for each
number.
-/

namespace Tabletop

open Numeral (Denotes Plain)

namespace Numeral

/-- The numerals of a text: its longest runs of digits, from left to right. -/
def runs (text : List Char) : List (List Char) :=
  (text.splitOnP fun c => !c.isDigit).filter fun digits => !digits.isEmpty

theorem runs_nil : runs [] = [] := rfl

/-- Digits are one run. -/
theorem Denotes.runs_eq {digits : List Char} {n : Nat} (h : Denotes digits n) :
    runs digits = [digits] := by
  have hd : ∀ c ∈ digits, (!c.isDigit) = false := by
    intro c hc
    rw [h.isDigit c hc]
    rfl
  have hne : digits.isEmpty = false := List.isEmpty_eq_false_iff.mpr h.ne_nil
  rw [runs, List.splitOnP_eq_singleton hd, List.filter_cons_of_pos (by rw [hne]; rfl)]
  rfl

/-- Any other character keeps the runs on its two sides apart. -/
theorem runs_append_cons (before after : List Char) {c : Char} (h : c.isDigit = false) :
    runs (before ++ c :: after) = runs before ++ runs after := by
  have hc : (fun c : Char => !c.isDigit) c = true := by
    show (!c.isDigit) = true
    rw [h]
    rfl
  rw [runs, List.splitOnP_append_cons before after hc, List.filter_append]
  rfl

theorem runs_cons (after : List Char) {c : Char} (h : c.isDigit = false) :
    runs (c :: after) = runs after := runs_append_cons [] after h

/-- A sign does so as well. -/
theorem runs_append_of_startsSigned (before : List Char) {after : List Char}
    (h : Token.StartsSigned after) : runs (before ++ after) = runs before ++ runs after := by
  rcases h with rfl | ⟨s, rest, rfl⟩
  · rw [List.append_nil, runs_nil, List.append_nil]
  · have hs : s.glyph.isDigit = false := by cases s <;> decide
    rw [runs_append_cons before rest hs, runs_cons rest hs]

example : runs "10d6-007".toList = ["10".toList, "6".toList, "007".toList] := by decide +kernel

end Numeral

/-! ## What is written -/

namespace Term

/-- Dice are written with two numerals. -/
theorem runs_dice {repetitions faces : List Char} {m n : Nat} (hm : Denotes repetitions m)
    (hn : Denotes faces n) :
    Numeral.runs (repetitions ++ 'd' :: faces) = [repetitions, faces] := by
  rw [Numeral.runs_append_cons _ _ rfl, hm.runs_eq, hn.runs_eq]
  rfl

theorem plain_of_mem_runs_text (t : Term) : ∀ digits ∈ Numeral.runs t.text, Plain digits := by
  intro digits hdigits
  cases t with
  | constant v =>
    have hruns : ∃ n, Numeral.runs (constant v).text = [Numeral.ofNat n] := by
      show ∃ n, Numeral.runs (Numeral.ofInt v.toInt) = _
      cases v.toInt with
      | ofNat n => exact ⟨n, (Numeral.denotes_ofNat n).runs_eq⟩
      | negSucc n =>
        refine ⟨n + 1, ?_⟩
        rw [Numeral.ofInt, Numeral.runs_cons _ rfl, (Numeral.denotes_ofNat (n + 1)).runs_eq]
    obtain ⟨n, hruns⟩ := hruns
    rw [hruns, List.mem_singleton] at hdigits
    rw [hdigits]
    exact Numeral.plain_ofNat n
  | dice d =>
    have hruns : Numeral.runs (dice d).text =
        [Numeral.ofUInt32 d.repetitions, Numeral.ofUInt32 d.faces] :=
      runs_dice (Numeral.denotes_ofNat _) (Numeral.denotes_ofNat _)
    rw [hruns] at hdigits
    simp only [List.mem_cons, List.not_mem_nil, or_false] at hdigits
    rcases hdigits with rfl | rfl
    · exact Numeral.plain_ofNat _
    · exact Numeral.plain_ofNat _

end Term

theorem SignedTerm.plain_of_mem_runs_text (ts : List SignedTerm) :
    ∀ digits ∈ Numeral.runs (ts.flatMap SignedTerm.text), Plain digits := by
  induction ts with
  | nil => exact fun digits h => absurd h List.not_mem_nil
  | cons t ts ih =>
    intro digits hdigits
    have hs : t.sign.glyph.isDigit = false := by cases t.sign <;> decide
    have hruns : Numeral.runs ((t :: ts).flatMap SignedTerm.text) =
        Numeral.runs t.term.text ++ Numeral.runs (ts.flatMap SignedTerm.text) := by
      show Numeral.runs (t.sign.glyph :: (t.term.text ++ ts.flatMap SignedTerm.text)) = _
      rw [Numeral.runs_cons _ hs,
        Numeral.runs_append_of_startsSigned _ (startsSigned_flatMap_text ts)]
    rw [hruns] at hdigits
    rcases List.mem_append.mp hdigits with ht | hts
    · exact t.term.plain_of_mem_runs_text digits ht
    · exact ih digits hts

/-- All numerals of a description are plain. -/
theorem Expr.plain_of_mem_runs_text (e : Expr) :
    ∀ digits ∈ Numeral.runs e.text, Plain digits := by
  have hplain := SignedTerm.plain_of_mem_runs_text e.terms
  unfold Expr.text Expr.dropPlus
  split
  next rest hrest =>
    rw [hrest, Numeral.runs_cons rest rfl] at hplain
    exact hplain
  next => exact hplain

/-! ## What is written again -/

/-- A term whose numerals are plain is written as it is notated. -/
theorem Term.Notated.text_eq {word : List Char} {t : Term} (h : Notated word t)
    (hp : ∀ digits ∈ Numeral.runs word, Plain digits) : t.text = word := by
  cases h with
  | @constant _ n hd hn =>
    rw [hd.runs_eq] at hp
    have htext : (Term.constant (Int64.ofInt n)).text = Numeral.ofNat n := by
      show Numeral.ofInt (Int64.ofInt n).toInt = _
      rw [Checked.toInt_ofInt_of_inRange (Checked.inRange_natCast (by omega))]
      rfl
    rw [htext]
    exact hd.ofNat_eq (hp _ List.mem_cons_self)
  | @dice repetitions faces m n hm hmle hn hnle =>
    rw [runs_dice hm hn] at hp
    have hrepetitions := hm.ofNat_eq (hp repetitions List.mem_cons_self)
    have hfaces := hn.ofNat_eq (hp faces (List.mem_cons_of_mem _ List.mem_cons_self))
    show Numeral.ofNat (UInt32.ofNat m).toNat ++ 'd' :: Numeral.ofNat (UInt32.ofNat n).toNat = _
    rw [UInt32.toNat_ofNat_of_lt' (Nat.lt_of_le_of_lt hmle (by decide)),
      UInt32.toNat_ofNat_of_lt' (Nat.lt_of_le_of_lt hnle (by decide)), hrepetitions, hfaces]

/-- So is a row of signed terms. -/
theorem SignedTerm.Row.flatMap_text {text : List Char} {ts : List SignedTerm} (h : Row text ts)
    (hp : ∀ digits ∈ Numeral.runs text, Plain digits) : ts.flatMap SignedTerm.text = text := by
  induction h with
  | nil => rfl
  | @cons s word rest t ts hword hrow ih =>
    have hs : s.glyph.isDigit = false := by cases s <;> decide
    rw [Numeral.runs_cons _ hs, Numeral.runs_append_of_startsSigned _ hrow.startsSigned] at hp
    have hterm := hword.text_eq fun digits h => hp digits (List.mem_append_left _ h)
    have hrest := ih fun digits h => hp digits (List.mem_append_right _ h)
    show s.glyph :: (t.text ++ ts.flatMap SignedTerm.text) = _
    rw [hterm, hrest]

namespace Expr

/-- Notation without a plus at the front and with plain numerals is written as it is. -/
theorem Notated.text_eq {text : List Char} {e : Expr} (h : Notated text e)
    (hplus : text.head? ≠ some '+') (hp : ∀ digits ∈ Numeral.runs text, Plain digits) :
    e.text = text := by
  cases h with
  | signed hrow =>
    rw [Expr.text, hrow.flatMap_text hp]
    unfold dropPlus
    split
    · exact absurd rfl hplus
    · rfl
  | @unsigned word rest t ts hword hrow =>
    rw [Numeral.runs_append_of_startsSigned _ hrow.startsSigned] at hp
    have hterm := hword.text_eq fun digits h => hp digits (List.mem_append_left _ h)
    have hrest := hrow.flatMap_text fun digits h => hp digits (List.mem_append_right _ h)
    show t.text ++ ts.flatMap SignedTerm.text = _
    rw [hterm, hrest]

/-- What is written does not start with a plus, if there are no negative constants. -/
theorem head?_text_ne {e : Expr} (h : ∀ t ∈ e.terms, ¬t.term.IsNegative) :
    e.text.head? ≠ some '+' := by
  obtain ⟨ts⟩ := e
  match ts, h with
  | [], _ => exact nofun
  | ⟨.minus, t⟩ :: ts, _ =>
    exact fun heq => absurd (Option.some.inj heq) (show '-' ≠ '+' by decide)
  | ⟨.plus, t⟩ :: ts, h =>
    have hnotated := Term.notated_text (h _ List.mem_cons_self)
    show (t.text ++ ts.flatMap SignedTerm.text).head? ≠ _
    cases htext : t.text with
    | nil => exact absurd htext hnotated.ne_nil
    | cons c rest =>
      intro heq
      have hsign := hnotated.ofChar?_eq_none c (by rw [htext]; exact List.mem_cons_self)
      rw [show c = '+' from Option.some.inj heq] at hsign
      cases hsign

/-- **Reading and describing is a normalisation.** The description of what a text is read as is read
as the same expression; and it is the text itself exactly when there is no space, tab or `D` in the
text, no plus at its front, and no numeral in it with leading zeros. -/
theorem read_description_of_read {text : String} {e : Expr} (h : read text = .ok e) :
    read e.description = .ok e ∧
      (e.description = text ↔
        (' ' ∉ text.toList ∧ '\t' ∉ text.toList ∧ 'D' ∉ text.toList) ∧
          text.toList.head? ≠ some '+' ∧ ∀ digits ∈ Numeral.runs text.toList, Plain digits) := by
  have hnotated := read_eq_ok_iff.1 h
  have hself := notated_text hnotated.not_isNegative
  refine ⟨read_description_eq_ok_of_notated hself, fun heq => ?_, fun ⟨hchars, hplus, hp⟩ => ?_⟩
  · have htext : text.toList = e.text := by
      rw [← heq, description, String.toList_ofList]
    rw [htext]
    -- none of the three characters is a mark
    have hmark : ∀ c, Token.isMark c = false → c ∉ e.text := by
      intro c hc hmem
      rw [hself.isMark c hmem] at hc
      cases hc
    exact ⟨⟨hmark ' ' rfl, hmark '\t' rfl, hmark 'D' rfl⟩, head?_text_ne hnotated.not_isNegative,
      e.plain_of_mem_runs_text⟩
  · obtain ⟨hspace, htab, hcapital⟩ := hchars
    rw [Token.condensed_eq_self_of_not_mem hspace htab hcapital] at hnotated
    rw [description, hnotated.text_eq hplus hp, String.ofList_toList]

/-- Blanks, a capital, a plus and leading zeros go; the normal form stays. -/
theorem read_description_of_read_normalized :
    let e : Expr := ⟨[.plus (.dice ⟨2, 6⟩), ⟨.minus, .constant 0⟩, .plus (.constant 10)]⟩
    read "+ 02D6 -000\t+1 0" = .ok e ∧ read "2d6-0+10" = .ok e ∧ e.description = "2d6-0+10" ∧
      read e.description = .ok e ∧ e.description ≠ "+ 02D6 -000\t+1 0" := by
  intro e
  have hread : read "+ 02D6 -000\t+1 0" = .ok e := by decide +kernel
  obtain ⟨hagain, hiff⟩ := read_description_of_read hread
  refine ⟨hread, by decide +kernel, by decide +kernel, hagain, fun heq => ?_⟩
  exact absurd (hiff.1 heq) (by decide +kernel)

end Expr

end Tabletop
