import Tabletop.Proofs.Notation

/-!
# Joining texts

To write one text behind another is to add what they are read as. The second text has to start with a
sign, since otherwise its first term would run into the last one of the first text; so it gets a plus
in front when it has none (`Expr.led`). What is notation by itself is then a row of signed terms
(`Notated.row_of_startsSigned`, `Notated.row_of_not_startsSigned`), and rows are joined by writing
them one behind the other, whatever stands in front of them (`Notated.append`).

In a row, every sign stands in front of a term, and no term is notated with signs of its own. So to
exchange the signs of a text (`Expr.flipped`) is to invert the terms (`SignedTerm.Row.flipped`), and

> `Expr.read_append_led`: a text followed by another one is read as their sum, and followed by the
> other one with its signs exchanged, as their difference.

Blanks and letter case stay out of this, because the condensed form of a text is made character by
character.
-/

namespace Tabletop

namespace Sign

/-- The other sign for a character that writes one, and any other character as it is. -/
def flipChar (c : Char) : Char :=
  match ofChar? c with
  | some s => s.inverted.glyph
  | none => c

theorem flipChar_glyph (s : Sign) : flipChar s.glyph = s.inverted.glyph := by
  rw [flipChar, ofChar?_glyph]

theorem flipChar_of_eq_none {c : Char} (h : ofChar? c = none) : flipChar c = c := by
  rw [flipChar, h]

end Sign

/-- The sign that a text starts with, its blanks left aside. -/
def Token.opening? (text : List Char) : Option Sign :=
  (text.find? fun c => !isFiller c).bind Sign.ofChar?

namespace Expr

/-- A text with a plus in front, unless it starts with a sign. -/
def led (text : String) : String :=
  match Token.opening? text.toList with
  | some _ => text
  | none => "+" ++ text

/-- A text with its pluses and minuses exchanged. -/
def flipped (text : String) : String := String.ofList (text.toList.map Sign.flipChar)

end Expr

/-! ## Condensed texts -/

namespace Token

theorem condensed_append (xs ys : List Char) :
    condensed (xs ++ ys) = condensed xs ++ condensed ys := by
  unfold condensed
  rw [List.filter_append, List.map_append]

/-- A capital `D` is no sign, and neither is a small one. -/
theorem ofChar?_normal (c : Char) : Sign.ofChar? (normal c) = Sign.ofChar? c := by
  unfold normal
  by_cases hc : c = 'D'
  · rw [if_pos hc, hc]
    rfl
  · rw [if_neg hc]

/-- The sign that a text starts with is the one at the front of its condensed form. -/
theorem opening?_eq (text : List Char) :
    opening? text = (condensed text).head?.bind Sign.ofChar? := by
  unfold opening? condensed
  rw [List.head?_map, List.head?_filter, Option.bind_map]
  congr 1
  funext c
  exact (ofChar?_normal c).symm

theorem startsSigned_of_opening? {text : List Char} {s : Sign} (h : opening? text = some s) :
    StartsSigned (condensed text) := by
  rw [opening?_eq, Option.bind_eq_some_iff] at h
  obtain ⟨c, hhead, hc⟩ := h
  obtain ⟨rest, hrest⟩ := List.head?_eq_some_iff.mp hhead
  rw [Sign.ofChar?_eq_some_iff] at hc
  rw [hc] at hrest
  exact .inr ⟨s, rest, hrest⟩

theorem opening?_of_startsSigned {text : List Char} (h : StartsSigned (condensed text))
    (hne : condensed text ≠ []) : ∃ s, opening? text = some s := by
  rcases h with hnil | ⟨s, rest, hrest⟩
  · exact absurd hnil hne
  · refine ⟨s, ?_⟩
    rw [opening?_eq, hrest]
    exact Sign.ofChar?_glyph s

/-- Signs are exchanged before a text is condensed or after it. -/
theorem condensed_map_flipChar (text : List Char) :
    condensed (text.map Sign.flipChar) = (condensed text).map Sign.flipChar := by
  have hchar : ∀ c, isFiller (Sign.flipChar c) = isFiller c ∧
      normal (Sign.flipChar c) = Sign.flipChar (normal c) := by
    intro c
    cases hc : Sign.ofChar? c with
    | none =>
      rw [Sign.flipChar_of_eq_none hc, Sign.flipChar_of_eq_none (by rw [ofChar?_normal, hc])]
      exact ⟨rfl, rfl⟩
    | some s =>
      rw [Sign.ofChar?_eq_some_iff.1 hc]
      cases s with
      | plus => exact ⟨rfl, rfl⟩
      | minus => exact ⟨rfl, rfl⟩
  unfold condensed
  rw [List.filter_map, List.map_map, List.map_map]
  have hfilter : ((fun c => !isFiller c) ∘ Sign.flipChar) = fun c => !isFiller c := by
    funext c
    show (!isFiller (Sign.flipChar c)) = !isFiller c
    rw [(hchar c).1]
  have hnormal : normal ∘ Sign.flipChar = Sign.flipChar ∘ normal := funext fun c => (hchar c).2
  rw [hfilter, hnormal]

/-- Blanks leave nothing. -/
theorem condensed_eq_nil_iff {text : List Char} :
    condensed text = [] ↔ ∀ c ∈ text, isFiller c = true := by
  unfold condensed
  rw [List.map_eq_nil_iff, List.filter_eq_nil_iff]
  simp

end Token

/-! ## Rows -/

namespace SignedTerm.Row

theorem append {xs ys : List Char} {ts us : List SignedTerm} (h : Row xs ts) (h' : Row ys us) :
    Row (xs ++ ys) (ts ++ us) := by
  induction h with
  | nil => exact h'
  | @cons s word rest t ts hword _ ih =>
    rw [List.cons_append, List.append_assoc]
    exact .cons hword ih

/-- To exchange the signs of a row is to invert its terms. -/
theorem flipped {text : List Char} {ts : List SignedTerm} (h : Row text ts) :
    Row (text.map Sign.flipChar) (ts.map SignedTerm.inverted) := by
  induction h with
  | nil => exact .nil
  | @cons s word rest t ts hword _ ih =>
    have hself : word.map Sign.flipChar = word := by
      have hchar : ∀ c ∈ word, Sign.flipChar c = c := by
        intro c hc
        exact Sign.flipChar_of_eq_none (hword.ofChar?_eq_none c hc)
      rw [List.map_congr_left hchar, List.map_id']
    rw [List.map_cons, List.map_append, Sign.flipChar_glyph, hself]
    exact .cons hword ih

end SignedTerm.Row

namespace Expr

/-- Notation that starts with a sign is a row. -/
theorem Notated.row_of_startsSigned {text : List Char} {e : Expr} (h : Notated text e)
    (hstart : Token.StartsSigned text) : SignedTerm.Row text e.terms := by
  cases h with
  | signed hrow => exact hrow
  | @unsigned word rest t ts hword hrow =>
    exfalso
    -- a term is notated with something, and none of it is a sign
    obtain ⟨c, word, rfl⟩ := List.exists_cons_of_ne_nil hword.ne_nil
    have hc := hword.ofChar?_eq_none c List.mem_cons_self
    rcases hstart with hnil | ⟨s, rest', heq⟩
    · cases hnil
    · rw [(List.cons.inj heq).1, Sign.ofChar?_glyph] at hc
      cases hc

/-- Any other notation is a row with a plus in front. -/
theorem Notated.row_of_not_startsSigned {text : List Char} {e : Expr} (h : Notated text e)
    (hstart : ¬Token.StartsSigned text) : SignedTerm.Row ('+' :: text) e.terms := by
  cases h with
  | signed hrow => exact absurd hrow.startsSigned hstart
  | unsigned hword hrow => exact .cons (s := .plus) hword hrow

/-- A row goes on with any notation. -/
theorem Notated.append {xs ys : List Char} {e : Expr} {ts : List SignedTerm} (h : Notated xs e)
    (h' : SignedTerm.Row ys ts) : Notated (xs ++ ys) ⟨e.terms ++ ts⟩ := by
  cases h with
  | signed hrow => exact .signed (hrow.append h')
  | unsigned hword hrow =>
    rw [List.append_assoc]
    exact .unsigned hword (hrow.append h')

/-! ## Texts -/

/-- A text that is read is a row of signed terms when it is led by a sign. -/
theorem row_led {text : String} {e : Expr} (h : read text = .ok e)
    (hne : Token.condensed text.toList ≠ []) :
    SignedTerm.Row (Token.condensed (led text).toList) e.terms := by
  have hnotated := read_eq_ok_iff.1 h
  unfold led
  split
  next s hs => exact hnotated.row_of_startsSigned (Token.startsSigned_of_opening? hs)
  next hnone =>
    have hstart : ¬Token.StartsSigned (Token.condensed text.toList) := by
      intro hstart
      obtain ⟨s, hs⟩ := Token.opening?_of_startsSigned hstart hne
      rw [hnone] at hs
      cases hs
    have hplus : Token.condensed ("+" ++ text).toList = '+' :: Token.condensed text.toList := by
      rw [String.toList_append, Token.condensed_append]
      rfl
    rw [hplus]
    exact hnotated.row_of_not_startsSigned hstart

/-- A text followed by a row is read as what the two stand for, one behind the other. -/
theorem read_append_of_row {s t : String} {a : Expr} {ts : List SignedTerm} (h : read s = .ok a)
    (h' : SignedTerm.Row (Token.condensed t.toList) ts) :
    read (s ++ t) = .ok ⟨a.terms ++ ts⟩ := by
  rw [read_eq_ok_iff, String.toList_append, Token.condensed_append]
  exact (read_eq_ok_iff.1 h).append h'

/-- **Joining texts is joining expressions.** Of two texts that are read, let the second one be
written behind the first. If there is nothing but blanks in it, the whole is read as the first text
is. Otherwise, with a plus between them unless the second one starts with a sign, the whole is read
as the sum of the two expressions; and with all signs of the second part exchanged, as their
difference. -/
theorem read_append_led {s t : String} {a b : Expr} (hs : read s = .ok a) (ht : read t = .ok b) :
    ((∀ c ∈ t.toList, Token.isFiller c = true) → read (s ++ t) = .ok a) ∧
    ((∃ c ∈ t.toList, Token.isFiller c = false) →
      read (s ++ led t) = .ok (a + b) ∧ read (s ++ flipped (led t)) = .ok (a - b)) := by
  refine ⟨fun hblank => ?_, fun ⟨c, hc, hfiller⟩ => ?_⟩
  · have hnil : SignedTerm.Row (Token.condensed t.toList) [] := by
      rw [Token.condensed_eq_nil_iff.2 hblank]
      exact .nil
    rw [read_append_of_row hs hnil, List.append_nil]
  · have hne : Token.condensed t.toList ≠ [] := by
      intro hnil
      rw [Token.condensed_eq_nil_iff.1 hnil c hc] at hfiller
      cases hfiller
    have hrow := row_led ht hne
    refine ⟨read_append_of_row hs hrow, read_append_of_row hs ?_⟩
    rw [flipped, String.toList_ofList, Token.condensed_map_flipChar]
    exact hrow.flipped

/-- A plus comes between two numbers, and the signs of the second text are exchanged together with
it. -/
theorem read_append_led_spaced :
    let a : Expr := ⟨[⟨.minus, .dice ⟨1, 20⟩⟩, .plus (.constant 4)]⟩
    let b : Expr := ⟨[.plus (.constant 2), ⟨.minus, .dice ⟨3, 6⟩⟩]⟩
    read "-1D20+4 " = .ok a ∧ read "\t2 - 3d6" = .ok b ∧ read "-1D20+4  \t" = .ok a ∧
      read "-1D20+4 +\t2 - 3d6" = .ok (a + b) ∧ read "-1D20+4 -\t2 + 3d6" = .ok (a - b) := by
  intro a b
  have hs : read "-1D20+4 " = .ok a := by decide +kernel
  have ht : read "\t2 - 3d6" = .ok b := by decide +kernel
  obtain ⟨hadd, hsub⟩ := (read_append_led hs ht).2 ⟨'2', by simp, rfl⟩
  obtain ⟨hblank, -⟩ := read_append_led hs (t := " \t") (b := .empty) (by decide +kernel)
  exact ⟨hs, ht, hblank (by simp [Token.isFiller]), hadd, hsub⟩

end Expr

end Tabletop
