import Tabletop.Text.CasedClass
import Tabletop.Text.CaseRun

/-!
# Lower-casing a whole text

Every character is replaced by its small form on its own, with one exception: a capital sigma at
the end of a word becomes the final small sigma, and at any other place the ordinary one. Where a
word ends is decided by the neighbours of the sigma, so lower-casing is a function of the whole text
and not of its characters one by one; `lowerAfter` therefore carries the characters already passed.

In ASCII the small form is the one of plain ASCII lower-casing (`lowerChar_of_ascii`), and what a
character outside ASCII is lowered to holds no ASCII character but a plain `i` or `k`
(`mem_lowerChar_ascii`): no sign, digit or blank can come out of the tables.
-/

namespace Tabletop.Text

/-- The small form of a character taken on its own. The capital `I` with a dot above is the only one
whose small form is two characters. -/
def lowerChar (c : Char) : List Char :=
  if c.toNat < 0x80 then [c.toLower]
  -- the dot of the capital outlives it as a mark of its own
  else if c = '\u0130' then ['i', '\u0307']
  else match caseRuns.find? (·.has c) with
    | some run => [run.lower c]
    | none => [c]

/-- Whether the first character that is not case-ignorable is a letter with case. -/
def meetsCased (text : List Char) : Bool :=
  (text.dropWhile caseIgnorable.has).head?.any cased.has

/-- The small form of a capital sigma between two stretches of text, the earlier one given
backwards: final when a letter stands before it and none after it. -/
def lowerSigma (before after : List Char) : Char :=
  if meetsCased before && !meetsCased after then '\u03c2' else '\u03c3'

/-- The small form of a character where it stands. -/
def lowerAt (before : List Char) (c : Char) (after : List Char) : List Char :=
  if c = '\u03a3' then [lowerSigma before after] else lowerChar c

/-- Lower-cases a text that follows the characters `before`, given backwards. -/
def lowerAfter (before : List Char) : List Char → List Char
  | [] => []
  | c :: after => lowerAt before c after ++ lowerAfter (c :: before) after

/-- Lower-cases a text. -/
def lower (text : List Char) : List Char := lowerAfter [] text

/-- An ASCII character has the one small form that plain ASCII lower-casing gives it. -/
theorem lowerChar_of_ascii {c : Char} (h : c.toNat < 0x80) : lowerChar c = [c.toLower] := by
  rw [lowerChar, if_pos h]

/-- A code point that is a character is the code point of that character. -/
theorem toNat_ofNat_of_valid {n : Nat} (h : n.isValidChar) : (Char.ofNat n).toNat = n := by
  rw [Char.ofNat, dif_pos h]
  rfl

/-- What a character outside ASCII is lowered to holds no ASCII character but a plain `i` or `k`. -/
theorem mem_lowerChar_ascii {c x : Char} (h : 0x80 ≤ c.toNat) (hx : x ∈ lowerChar c)
    (hs : x.toNat < 0x80) : x = 'i' ∨ x = 'k' := by
  rw [lowerChar, if_neg (by omega)] at hx
  split at hx
  next =>
    simp only [List.mem_cons, List.not_mem_nil, or_false] at hx
    rcases hx with rfl | rfl
    · exact .inl rfl
    · exact absurd hs (by decide)
  next =>
    split at hx
    next run hrun =>
      rw [List.mem_singleton] at hx
      have hmem := List.mem_of_find?_eq_some hrun
      have hhas := List.find?_some hrun
      simp only [CaseRun.has, Bool.and_eq_true, decide_eq_true_eq] at hhas
      obtain ⟨⟨hlo, hhi⟩, -⟩ := hhas
      subst hx
      rcases caseRuns_target run hmem with ⟨h1, h2, h3⟩ | ⟨h1, h2⟩ | ⟨h1, h2⟩
      · have hc : c.toNat = 0x212a := by omega
        right
        simp [CaseRun.lower, h3, hc]
      · exfalso
        have hv : (c.toNat + run.shift).toNat.isValidChar := Or.inl (by omega)
        rw [CaseRun.lower, toNat_ofNat_of_valid hv] at hs
        omega
      · exfalso
        have hv : (c.toNat + run.shift).toNat.isValidChar := Or.inr ⟨by omega, by omega⟩
        rw [CaseRun.lower, toNat_ofNat_of_valid hv] at hs
        omega
    next =>
      rw [List.mem_singleton] at hx
      subst hx
      omega

end Tabletop.Text
