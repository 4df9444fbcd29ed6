import Mathlib.Data.List.Chain
import Mathlib.Data.List.TakeWhile
import Tabletop.Expr.Reading
import Tabletop.Proofs.Token

/-!
# The one way to cut a text

What the tokens of a text are can be said without a scanner: they spell the text, none of them is
empty, a sign is a token of its own, and of two neighbours one is a sign (`Token.Cut`). There is
only one way to cut a text like that, so these four conditions are all there is to know:

> `Token.name_ofText_eq_iff_cut`: the tokens of a text are the only cut of what is scanned of it.

Uniqueness is one induction on the tokens (`scan_flatMap_text`): in front of a sign the scanner
always stops, and a word is followed by nothing else.

The same induction settles in which order blanks are dropped and words are joined. `lexemes` cuts
the text as it stands into signs and longest runs of other characters, skipping blanks, which leaves
a word with a blank in it as two; `merged` puts neighbouring words together, one after the other,
until a sign comes. What comes out spells the text without its blanks and has no words next to each
other, and so is what the scanner makes of the text whose blanks were dropped beforehand
(`merged_lexemes`).
-/

namespace Tabletop.Token

/-! ## Uniqueness -/

/-- Tokens that could have been scanned are scanned from what they spell. -/
theorem scan_flatMap_text {tokens : List Token} (hw : ∀ t ∈ tokens, t.WellFormed)
    (ha : Alternates tokens) : scan (tokens.flatMap text) = tokens := by
  induction tokens with
  | nil => rfl
  | cons t tokens ih =>
    obtain ⟨ht, hrest⟩ := List.forall_mem_cons.mp hw
    have hscan := ih hrest ha.tail
    cases t with
    | sign s =>
      show scan (s.glyph :: tokens.flatMap text) = _
      rw [scan_glyph, hscan]
    | word cs =>
      -- behind a word there is nothing or a sign
      have hsigned : StartsSigned (tokens.flatMap text) := by
        match tokens, ha with
        | [], _ => exact .inl rfl
        | .sign s :: rest, _ => exact .inr ⟨s, rest.flatMap text, rfl⟩
        | .word cs' :: rest, ha => exact absurd ha.1 (by simp [isSign])
      show scan (cs ++ tokens.flatMap text) = _
      rw [scan_append hsigned, hscan, scan_word ht.1 ht.2]
      rfl

/-! ## Lexemes -/

/-- A character that is part of a word. -/
def isPart (c : Char) : Bool := !isFiller c && (Sign.ofChar? c).isNone

/-- The lexemes of a text: its signs, and the longest runs of characters that are neither signs nor
blanks. Blanks are skipped. -/
def lexemes : List Char → List Token
  | [] => []
  | c :: rest =>
    match Sign.ofChar? c with
    | some s => sign s :: lexemes rest
    | none =>
      if isFiller c then lexemes rest
      else word (c :: rest.takeWhile isPart) :: lexemes (rest.dropWhile isPart)
termination_by cs => cs.length
decreasing_by
  · exact Nat.lt_succ_self _
  · exact Nat.lt_succ_self _
  · exact Nat.lt_succ_of_le (List.dropWhile_sublist isPart).length_le

/-- Takes tokens one by one; a word goes on as long as words follow. -/
def merged : List Token → List Token
  | [] => []
  | word first :: word second :: rest => merged (word (first ++ second) :: rest)
  | t :: rest => t :: merged rest
termination_by tokens => tokens.length

theorem isPart_iff {c : Char} :
    isPart c = true ↔ isFiller c = false ∧ Sign.ofChar? c = none := by
  simp [isPart]

/-- What a run leaves of the text is what is left of it without blanks. -/
theorem filter_append_dropWhile (cs : List Char) :
    cs.takeWhile isPart ++ (cs.dropWhile isPart).filter (fun c => !isFiller c) =
      cs.filter fun c => !isFiller c := by
  have hrun : (cs.takeWhile isPart).filter (fun c => !isFiller c) = cs.takeWhile isPart := by
    rw [List.filter_eq_self]
    intro c hc
    rw [(isPart_iff.1 (List.mem_takeWhile_imp hc)).1]
    rfl
  calc
    cs.takeWhile isPart ++ (cs.dropWhile isPart).filter (fun c => !isFiller c)
      = (cs.takeWhile isPart ++ cs.dropWhile isPart).filter (fun c => !isFiller c) := by
        rw [List.filter_append, hrun]
    _ = cs.filter fun c => !isFiller c := by rw [List.takeWhile_append_dropWhile]

/-- The lexemes spell the text without its blanks. -/
theorem flatMap_text_lexemes (cs : List Char) :
    (lexemes cs).flatMap text = cs.filter fun c => !isFiller c := by
  fun_induction lexemes cs with
  | case1 => rfl
  | case2 c rest s hs ih =>
    have hc : c = s.glyph := Sign.ofChar?_eq_some_iff.1 hs
    have hf : isFiller c = false := by
      rw [hc]
      cases s <;> rfl
    rw [List.flatMap_cons, ih, List.filter_cons_of_pos (by rw [hf]; rfl), hc]
    rfl
  | case3 c rest hs hf ih => rw [ih, List.filter_cons_of_neg (by rw [hf]; exact nofun)]
  | case4 c rest hs hf ih =>
    rw [List.flatMap_cons, ih, List.filter_cons_of_pos (by simp [hf])]
    exact congrArg (c :: ·) (filter_append_dropWhile rest)

theorem wellFormed_of_mem_lexemes (cs : List Char) : ∀ t ∈ lexemes cs, t.WellFormed := by
  fun_induction lexemes cs with
  | case1 => exact fun t ht => absurd ht List.not_mem_nil
  | case2 c rest s hs ih => exact List.forall_mem_cons.mpr ⟨trivial, ih⟩
  | case3 c rest hs hf ih => exact ih
  | case4 c rest hs hf ih =>
    have hrun : ∀ x ∈ rest.takeWhile isPart, Sign.ofChar? x = none :=
      fun x hx => (isPart_iff.1 (List.mem_takeWhile_imp hx)).2
    exact List.forall_mem_cons.mpr
      ⟨⟨List.cons_ne_nil c _, List.forall_mem_cons.mpr ⟨hs, hrun⟩⟩, ih⟩

/-- Nothing is lost by putting words together, -/
theorem flatMap_text_merged (tokens : List Token) :
    (merged tokens).flatMap text = tokens.flatMap text := by
  fun_induction merged tokens with
  | case1 => rfl
  | case2 first second rest ih =>
    rw [ih]
    exact List.append_assoc first second (rest.flatMap text)
  | case3 t rest _ ih => rw [List.flatMap_cons, List.flatMap_cons, ih]

/-- words stay words, -/
theorem wellFormed_of_mem_merged {tokens : List Token} (hw : ∀ t ∈ tokens, t.WellFormed) :
    ∀ t ∈ merged tokens, t.WellFormed := by
  fun_induction merged tokens with
  | case1 => exact hw
  | case2 first second rest ih =>
    obtain ⟨hfirst, hothers⟩ := List.forall_mem_cons.mp hw
    obtain ⟨hsecond, hrest⟩ := List.forall_mem_cons.mp hothers
    have hne : first ++ second ≠ [] := fun hnil => hfirst.1 (List.append_eq_nil_iff.mp hnil).1
    have hjoined : (word (first ++ second)).WellFormed :=
      ⟨hne, fun c hc => (List.mem_append.mp hc).elim (hfirst.2 c) (hsecond.2 c)⟩
    exact ih (List.forall_mem_cons.mpr ⟨hjoined, hrest⟩)
  | case3 t rest _ ih =>
    obtain ⟨ht, hrest⟩ := List.forall_mem_cons.mp hw
    exact List.forall_mem_cons.mpr ⟨ht, ih hrest⟩

theorem merged_sign (s : Sign) (tokens : List Token) :
    merged (sign s :: tokens) = sign s :: merged tokens := by
  rw [merged]
  exact fun first second rest h => nomatch h

/-- and none stands next to another. -/
theorem alternates_merged (tokens : List Token) : Alternates (merged tokens) := by
  fun_induction merged tokens with
  | case1 => trivial
  | case2 first second rest ih => exact ih
  | case3 t rest hne ih =>
    cases t with
    | sign s => exact ih.cons_sign s
    | word first =>
      -- what follows is a sign, and stays the first token of what is merged
      match rest, hne, ih with
      | [], _, _ =>
        rw [merged]
        trivial
      | sign s :: rest, _, ih =>
        rw [merged_sign] at ih ⊢
        exact ⟨.inr rfl, ih⟩
      | word second :: rest, hne, _ => exact (hne first second rest rfl rfl).elim

/-- It makes no difference whether blanks are dropped before the text is cut, or skipped while it is
cut and the words on their two sides joined. -/
theorem merged_lexemes (cs : List Char) :
    merged (lexemes cs) = scan (cs.filter fun c => !isFiller c) := by
  have hscan := scan_flatMap_text (wellFormed_of_mem_merged (wellFormed_of_mem_lexemes cs))
    (alternates_merged (lexemes cs))
  rw [flatMap_text_merged, flatMap_text_lexemes] at hscan
  exact hscan.symm

/-! ## Cuts into texts -/

/-- A text cut into pieces that could be its tokens. -/
structure Cut (text : List Char) (pieces : List String) : Prop where
  /-- The pieces spell the text. -/
  spells : pieces.flatMap String.toList = text
  /-- None of them is empty. -/
  ne_empty : ∀ p ∈ pieces, p ≠ ""
  /-- A piece that holds a sign is the sign and nothing else. -/
  alone : ∀ p ∈ pieces, ∀ s : Sign, s.glyph ∈ p.toList → p = (sign s).name
  /-- Of two neighbouring pieces one is a sign. -/
  apart : pieces.IsChain fun p q => (∃ s, p = (sign s).name) ∨ ∃ s, q = (sign s).name

theorem toList_name (t : Token) : t.name.toList = t.text := String.toList_ofList

theorem WellFormed.name_ne_empty {t : Token} (h : t.WellFormed) : t.name ≠ "" := by
  intro hname
  have htext : t.text = [] := by rw [← toList_name, hname, String.toList_empty]
  cases t with
  | sign s => cases htext
  | word cs => exact h.1 htext

/-- A sign in a token is all of it. -/
theorem WellFormed.eq_sign_of_mem {t : Token} (h : t.WellFormed) {s : Sign}
    (hs : s.glyph ∈ t.text) : t = sign s := by
  cases t with
  | sign s' =>
    have hsome : some s = some s' := by
      rw [← Sign.ofChar?_glyph s, ← Sign.ofChar?_glyph s', List.mem_singleton.mp hs]
    rw [Option.some.inj hsome]
  | word cs =>
    have hnone := h.2 s.glyph hs
    rw [Sign.ofChar?_glyph] at hnone
    cases hnone

/-- So a token is a sign exactly when it is written like one. -/
theorem WellFormed.isSign_iff {t : Token} (h : t.WellFormed) :
    t.isSign = true ↔ ∃ s, t.name = (sign s).name := by
  refine ⟨fun ht => ?_, fun ⟨s, hname⟩ => ?_⟩
  · cases t with
    | sign s => exact ⟨s, rfl⟩
    | word cs => cases ht
  · have htext : t.text = [s.glyph] := String.ofList_inj.mp hname
    rw [h.eq_sign_of_mem (htext ▸ List.mem_singleton_self _)]
    rfl

theorem alternates_iff_isChain {tokens : List Token} (hw : ∀ t ∈ tokens, t.WellFormed) :
    Alternates tokens ↔
      (tokens.map name).IsChain fun p q => (∃ s, p = (sign s).name) ∨ ∃ s, q = (sign s).name := by
  induction tokens with
  | nil => exact ⟨fun _ => .nil, fun _ => trivial⟩
  | cons first rest ih =>
    obtain ⟨hfirst, hrest⟩ := List.forall_mem_cons.mp hw
    cases rest with
    | nil => exact ⟨fun _ => .singleton _, fun _ => trivial⟩
    | cons second rest =>
      have hsecond := hrest second List.mem_cons_self
      rw [List.map_cons, List.map_cons, List.isChain_cons_cons, ← List.map_cons, ← ih hrest,
        ← hfirst.isSign_iff, ← hsecond.isSign_iff]
      rfl

/-- Tokens that could have been scanned are a cut of what they spell. -/
theorem cut_map_name {tokens : List Token} (hw : ∀ t ∈ tokens, t.WellFormed)
    (ha : Alternates tokens) : Cut (tokens.flatMap text) (tokens.map name) where
  spells := by
    rw [List.flatMap_map]
    exact List.flatMap_congr fun t _ => toList_name t
  ne_empty := by
    intro p hp
    obtain ⟨t, ht, rfl⟩ := List.mem_map.mp hp
    exact (hw t ht).name_ne_empty
  alone := by
    intro p hp s hs
    obtain ⟨t, ht, rfl⟩ := List.mem_map.mp hp
    rw [toList_name] at hs
    rw [(hw t ht).eq_sign_of_mem hs]
  apart := (alternates_iff_isChain hw).1 ha

/-- The pieces of a cut are written like tokens that could have been scanned. -/
theorem Cut.exists_tokens {text : List Char} {pieces : List String} (h : Cut text pieces) :
    ∃ tokens : List Token, (∀ t ∈ tokens, t.WellFormed) ∧ tokens.map name = pieces := by
  have hpiece : ∀ p ∈ pieces, ∃ t : Token, t.WellFormed ∧ t.name = p := by
    intro p hp
    by_cases hs : ∃ s : Sign, s.glyph ∈ p.toList
    · obtain ⟨s, hs⟩ := hs
      exact ⟨sign s, trivial, (h.alone p hp s hs).symm⟩
    · refine ⟨word p.toList, ⟨?_, fun c hc => ?_⟩, String.ofList_toList⟩
      · exact fun hnil => h.ne_empty p hp (String.toList_eq_nil_iff.mp hnil)
      · cases hc' : Sign.ofChar? c with
        | none => rfl
        | some s =>
          rw [Sign.ofChar?_eq_some_iff.1 hc'] at hc
          exact absurd ⟨s, hc⟩ hs
  clear h
  induction pieces with
  | nil => exact ⟨[], fun t ht => absurd ht List.not_mem_nil, rfl⟩
  | cons p pieces ih =>
    obtain ⟨⟨t, ht, rfl⟩, hrest⟩ := List.forall_mem_cons.mp hpiece
    obtain ⟨tokens, htokens, rfl⟩ := ih hrest
    exact ⟨t :: tokens, List.forall_mem_cons.mpr ⟨ht, htokens⟩, rfl⟩

/-- What is scanned of a text is its only cut. -/
theorem map_name_scan_eq_iff_cut {cs : List Char} {pieces : List String} :
    (scan cs).map name = pieces ↔ Cut cs pieces := by
  refine ⟨fun h => ?_, fun h => ?_⟩
  · have hcut := cut_map_name (wellFormed_of_mem_scan cs) (scan_alternates cs)
    rwa [flatMap_text_scan, h] at hcut
  · obtain ⟨tokens, hw, rfl⟩ := h.exists_tokens
    have halternates := (alternates_iff_isChain hw).2 h.apart
    have hspells := h.spells
    rw [(cut_map_name hw halternates).spells] at hspells
    rw [← hspells, scan_flatMap_text hw halternates]

/-- **There is one way to cut a text.** The tokens of a text are the only pieces of its lower-cased
form without spaces and tabs that spell it, are not empty, hold a sign only if they are that sign,
and of which no two neighbours are both without one. They are found by skipping blanks between
longest runs of characters and joining the runs that meet. -/
theorem name_ofText_eq_iff_cut (text : String) :
    (∀ pieces, (ofText text.toList).map name = pieces ↔
      Cut ((Text.lower text.toList).filter fun c => !isFiller c) pieces) ∧
    ofText text.toList = merged (lexemes (Text.lower text.toList)) :=
  ⟨fun _ => map_name_scan_eq_iff_cut, (merged_lexemes _).symm⟩

end Tabletop.Token
