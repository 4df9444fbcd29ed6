import Tabletop.Token

/-!
# Layout and letter case

The characters that notation is made of are the digits, the letter `d` and the two signs, its
*marks*. Lower-casing a text and dropping its blanks is a simple thing on marks: a capital `D`
becomes `d`, every other mark stays, whatever stands around it. And it brings forth no mark out of
anything else, so a foreign character stays one, even if it is not the same or becomes two.

`condensed` is the simple thing, done to all characters alike. On the texts that matter it is what
the scanner gets to see:

> `spelled_eq_condensed`: if either of them consists of marks, they are equal.
-/

namespace Tabletop.Token

/-- The characters that notation without blanks is made of. -/
def isMark (c : Char) : Bool := c.isDigit || c == 'd' || (Sign.ofChar? c).isSome

/-- A small `d` for a capital one. -/
def normal (c : Char) : Char := if c = 'D' then 'd' else c

/-- A text without its spaces and tabs, and with a small `d` for every capital one. -/
def condensed (text : List Char) : List Char := (text.filter fun c => !isFiller c).map normal

/-- What is scanned of a text that follows the characters `before`, given backwards. -/
def spelledAfter (before text : List Char) : List Char :=
  (Text.lowerAfter before text).filter fun c => !isFiller c

/-- What is scanned of a text. -/
def spelled (text : List Char) : List Char := spelledAfter [] text

theorem ofText_eq_scan (text : List Char) : ofText text = scan (spelled text) := rfl

/-- A text is lowered and freed from blanks character by character. -/
theorem spelledAfter_cons (before : List Char) (c : Char) (after : List Char) :
    spelledAfter before (c :: after) =
      (Text.lowerAt before c after).filter (fun x => !isFiller x) ++
        spelledAfter (c :: before) after := by
  rw [spelledAfter, Text.lowerAfter, List.filter_append]
  rfl

/-- What holds of the first `0x80` code points holds of every ASCII character. -/
@[elab_as_elim]
theorem of_forall_ascii {p : Char → Prop} {c : Char} (h : c.toNat < 0x80)
    (hall : ∀ n : Fin 0x80, p (Char.ofNat n)) : p c := by
  have hc := hall ⟨c.toNat, h⟩
  rwa [Char.ofNat_toNat] at hc

/-- Lower-casing in ASCII: blanks stay, marks stay but for the capital `D`, and nothing else becomes
either. -/
theorem toLower_of_ascii {c : Char} (h : c.toNat < 0x80) :
    (isFiller c = true → c.toLower = c) ∧ (isMark (normal c) = true → c.toLower = normal c) ∧
      (isFiller c = false → isMark (normal c) = false →
        isFiller c.toLower = false ∧ isMark c.toLower = false) := by
  refine of_forall_ascii h ?_
  decide +kernel

theorem ascii_of_isMark {c : Char} (h : isMark c = true) : c.toNat < 0x80 := by
  simp only [isMark, Bool.or_eq_true, beq_iff_eq, Option.isSome_iff_exists] at h
  rcases h with (hd | rfl) | ⟨s, hs⟩
  · simp only [Char.isDigit, Bool.and_eq_true, decide_eq_true_eq, UInt32.le_iff_toNat_le] at hd
    exact Nat.lt_of_le_of_lt hd.2 (by decide)
  · decide
  · rw [Sign.ofChar?_eq_some_iff.1 hs]
    cases s <;> decide

theorem ascii_of_isFiller {c : Char} (h : isFiller c = true) : c.toNat < 0x80 := by
  simp only [isFiller, Bool.or_eq_true, beq_iff_eq] at h
  rcases h with rfl | rfl <;> decide

/-- No blank is a mark. -/
theorem not_isFiller_of_isMark {c : Char} (h : isMark c = true) : isFiller c = false := by
  rw [Bool.eq_false_iff]
  intro hf
  simp only [isFiller, Bool.or_eq_true, beq_iff_eq] at hf
  rcases hf with rfl | rfl <;> exact absurd h (by decide)

theorem normal_of_not_ascii {c : Char} (h : 0x80 ≤ c.toNat) : normal c = c := by
  refine if_neg fun heq => ?_
  rw [heq] at h
  exact absurd h (by decide)

/-- Lower-casing never makes a character vanish. -/
theorem lowerAt_ne_nil (before : List Char) (c : Char) (after : List Char) :
    Text.lowerAt before c after ≠ [] := by
  unfold Text.lowerAt
  split
  · simp
  · unfold Text.lowerChar
    split
    · simp
    · split
      · simp
      · split <;> simp

/-- In ASCII the neighbours play no part. -/
theorem lowerAt_of_ascii {before after : List Char} {c : Char} (h : c.toNat < 0x80) :
    Text.lowerAt before c after = [c.toLower] := by
  rw [Text.lowerAt, if_neg, Text.lowerChar_of_ascii h]
  intro heq
  rw [heq] at h
  exact absurd h (by decide)

/-- A character outside ASCII is lowered to neither blanks nor marks. -/
theorem foreign_of_mem_lowerAt {before after : List Char} {c x : Char} (h : 0x80 ≤ c.toNat)
    (hx : x ∈ Text.lowerAt before c after) : isFiller x = false ∧ isMark x = false := by
  by_cases hs : x.toNat < 0x80
  · -- the only ASCII characters that lower-casing can bring in are two letters
    have hik : x = 'i' ∨ x = 'k' := by
      unfold Text.lowerAt at hx
      split at hx
      next =>
        rw [List.mem_singleton] at hx
        subst hx
        unfold Text.lowerSigma at hs
        split at hs <;> exact absurd hs (by decide)
      next => exact Text.mem_lowerChar_ascii h hx hs
    rcases hik with rfl | rfl <;> decide
  · exact ⟨Bool.eq_false_iff.mpr fun e => hs (ascii_of_isFiller e),
      Bool.eq_false_iff.mpr fun e => hs (ascii_of_isMark e)⟩

/-- What becomes of one character of a text: a blank is dropped, a mark is spelled small, and
anything else leaves something that is no mark. -/
theorem spelled_char (before : List Char) (c : Char) (after : List Char) :
    isFiller c = true ∧ (Text.lowerAt before c after).filter (fun x => !isFiller x) = [] ∨
      isFiller c = false ∧
        (Text.lowerAt before c after).filter (fun x => !isFiller x) = [normal c] ∨
      isFiller c = false ∧ isMark (normal c) = false ∧
        ∃ x ∈ (Text.lowerAt before c after).filter (fun x => !isFiller x), isMark x = false := by
  by_cases ha : c.toNat < 0x80
  · obtain ⟨hblank, hmark, hother⟩ := toLower_of_ascii ha
    rw [lowerAt_of_ascii ha]
    cases hf : isFiller c with
    | true =>
      left
      rw [hblank hf]
      simp [hf]
    | false =>
      right
      cases hm : isMark (normal c) with
      | true =>
        left
        rw [hmark hm]
        simp [not_isFiller_of_isMark hm]
      | false =>
        obtain ⟨hf', hm'⟩ := hother hf hm
        exact .inr ⟨rfl, rfl, c.toLower, by simp [hf'], hm'⟩
  · have hna : 0x80 ≤ c.toNat := Nat.not_lt.mp ha
    right; right
    refine ⟨Bool.eq_false_iff.mpr fun e => ha (ascii_of_isFiller e), ?_, ?_⟩
    · rw [normal_of_not_ascii hna]
      exact Bool.eq_false_iff.mpr fun e => ha (ascii_of_isMark e)
    · obtain ⟨x, hx⟩ := List.exists_mem_of_ne_nil _ (lowerAt_ne_nil before c after)
      obtain ⟨hf, hm⟩ := foreign_of_mem_lowerAt hna hx
      exact ⟨x, List.mem_filter.mpr ⟨hx, by simp [hf]⟩, hm⟩

/-- What is scanned of a text is its condensed form, unless both hold something that is no mark. -/
theorem spelledAfter_eq_or_foreign (before text : List Char) :
    spelledAfter before text = condensed text ∨
      (∃ x ∈ spelledAfter before text, isMark x = false) ∧
        ∃ x ∈ condensed text, isMark x = false := by
  induction text generalizing before with
  | nil => exact .inl rfl
  | cons c after ih =>
    have hcond : condensed (c :: after) =
        (if isFiller c then [] else [normal c]) ++ condensed after := by
      cases hf : isFiller c <;> simp [condensed, hf]
    rw [spelledAfter_cons, hcond]
    -- a foreign character settles the matter, and any other leaves it to those behind it
    obtain ⟨hf, hlow⟩ | ⟨hf, hlow⟩ | ⟨hf, hm, x, hx, hxm⟩ := spelled_char before c after
    · rw [hf, hlow]
      exact ih _
    · rw [hf, hlow]
      rcases ih (c :: before) with heq | ⟨⟨x, hx, hxm⟩, y, hy, hym⟩
      · exact .inl (by rw [heq]; rfl)
      · exact .inr ⟨⟨x, List.mem_append_right _ hx, hxm⟩, y, List.mem_append_right _ hy, hym⟩
    · rw [hf]
      exact .inr ⟨⟨x, List.mem_append_left _ hx, hxm⟩, normal c, List.mem_append_left _ (by simp),
        hm⟩

/-- What is scanned of a text is its condensed form, if either consists of marks. -/
theorem spelled_eq_condensed {text : List Char}
    (h : (∀ c ∈ spelled text, isMark c = true) ∨ ∀ c ∈ condensed text, isMark c = true) :
    spelled text = condensed text := by
  rcases spelledAfter_eq_or_foreign [] text with heq | ⟨⟨x, hx, hxm⟩, y, hy, hym⟩
  · exact heq
  · exfalso
    rcases h with hs | hc
    · exact absurd (hs x hx) (by simp [hxm])
    · exact absurd (hc y hy) (by simp [hym])

/-- There is nothing to condense but blanks and capitals. -/
theorem condensed_eq_self_of_not_mem {text : List Char} (hspace : ' ' ∉ text)
    (htab : '\t' ∉ text) (hcapital : 'D' ∉ text) : condensed text = text := by
  have hfiller : ∀ c ∈ text, (!isFiller c) = true := by
    intro c hc
    have hs : c ≠ ' ' := fun heq => hspace (heq ▸ hc)
    have ht : c ≠ '\t' := fun heq => htab (heq ▸ hc)
    simp [isFiller, hs, ht]
  have hnormal : ∀ c ∈ text, normal c = c := by
    intro c hc
    refine if_neg fun heq => hcapital ?_
    rw [← heq]
    exact hc
  rw [condensed, List.filter_eq_self.mpr hfiller, List.map_congr_left hnormal, List.map_id']

/-- A text of marks is its own condensed form. -/
theorem condensed_eq_self {text : List Char} (h : ∀ c ∈ text, isMark c = true) :
    condensed text = text := by
  have hforeign : ∀ c, isMark c = false → c ∉ text := by
    intro c hc hmem
    rw [h c hmem] at hc
    cases hc
  exact condensed_eq_self_of_not_mem (hforeign ' ' rfl) (hforeign '\t' rfl) (hforeign 'D' rfl)

end Tabletop.Token
