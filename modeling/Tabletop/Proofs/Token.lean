import Tabletop.Token

/-!
# Scanning a text without blanks

What the scanner makes of a text that is put together from known parts. A sign is a border: nothing
in front of it can run on behind it, so

> `scan_append`: a text followed by one that starts with a sign is scanned part by part,

and a run of other characters is one word (`scan_word`). In the other direction every word that is
scanned is such a run (`wellFormed_of_mem_scan`).
-/

namespace Tabletop.Token

/-- A sign, or a word of at least one character and without signs. -/
def WellFormed : Token → Prop
  | sign _ => True
  | word cs => cs ≠ [] ∧ ∀ c ∈ cs, Sign.ofChar? c = none

theorem wellFormed_joinFront {c : Char} (hc : Sign.ofChar? c = none) {tokens : List Token}
    (h : ∀ t ∈ tokens, t.WellFormed) : ∀ t ∈ joinFront c tokens, t.WellFormed := by
  intro t ht
  unfold joinFront at ht
  split at ht
  next cs rest =>
    rcases List.mem_cons.mp ht with rfl | ht
    · have hw := h _ (List.mem_cons_self ..)
      exact ⟨by simp, List.forall_mem_cons.mpr ⟨hc, hw.2⟩⟩
    · exact h t (List.mem_cons_of_mem _ ht)
  next =>
    rcases List.mem_cons.mp ht with rfl | ht
    · exact ⟨by simp, List.forall_mem_cons.mpr ⟨hc, by simp⟩⟩
    · exact h t ht

/-- Scanning gives signs and non-empty words without signs. -/
theorem wellFormed_of_mem_scan (cs : List Char) : ∀ t ∈ scan cs, t.WellFormed := by
  induction cs with
  | nil => simp [scan]
  | cons c rest ih =>
    rw [scan]
    split
    next s _ => exact List.forall_mem_cons.mpr ⟨trivial, ih⟩
    next hc => exact wellFormed_joinFront hc ih

/-- A character joins what stands in front of a sign and nothing behind it. -/
theorem joinFront_append_sign (c : Char) (s : Sign) (before after : List Token) :
    joinFront c (before ++ sign s :: after) = joinFront c before ++ sign s :: after := by
  cases before with
  | nil => rfl
  | cons t before => cases t <;> rfl

/-- A text starts with a sign, or there is none of it. -/
def StartsSigned (cs : List Char) : Prop := cs = [] ∨ ∃ s rest, cs = Sign.glyph s :: rest

theorem scan_glyph (s : Sign) (rest : List Char) : scan (s.glyph :: rest) = sign s :: scan rest := by
  rw [scan, Sign.ofChar?_glyph]

/-- No token reaches over the border in front of a sign. -/
theorem scan_append {xs ys : List Char} (h : StartsSigned ys) :
    scan (xs ++ ys) = scan xs ++ scan ys := by
  rcases h with rfl | ⟨s, ys, rfl⟩
  · simp [scan]
  · induction xs with
    | nil => rfl
    | cons c xs ih =>
      rw [List.cons_append, scan, scan, ih, scan_glyph]
      -- `c` is a sign itself, or joins a word that ends in front of `s`
      split
      · rfl
      · rw [joinFront_append_sign]

/-- A run of characters that are no signs is one word. -/
theorem scan_word {w : List Char} (hne : w ≠ []) (hs : ∀ c ∈ w, Sign.ofChar? c = none) :
    scan w = [word w] := by
  induction w with
  | nil => exact absurd rfl hne
  | cons c w ih =>
    obtain ⟨hc, hw⟩ := List.forall_mem_cons.mp hs
    rw [scan, hc]
    cases w with
    | nil => rfl
    | cons c' w =>
      show joinFront c (scan (c' :: w)) = _
      rw [ih (by simp) hw]
      rfl

end Tabletop.Token
