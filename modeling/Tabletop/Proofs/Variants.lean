import Tabletop.Proofs.Complaint

/-!
# Variants of a text

Two texts are variants of each other if they are the same without their spaces and tabs and with
small ASCII letters for the capital ones (`Token.folded`). The reader lower-cases a text before it
drops the blanks, and a blank can decide which small form a capital sigma gets. So variants need not
be cut into the same tokens, but they are up to that one letter, of which `settled` keeps one form:

> `Token.map_settledChar_spelled`: what is scanned of a text is fixed by the folded text, up to the
> small sigmas; and `Token.spelled_eq_flatMap`: outright, if there is no capital sigma in it.

A sigma is no mark, so a word that holds one is not read as a term, whichever form it has
(`Token.isTerm_of_settled_eq`). Rows that differ in small sigmas only are therefore refused at the
same places for the same reason (`Expr.SameRow.complaint`). And what is read at all consists of
marks, for which folding is all that reading does to a text (`Expr.read_eq_ok_iff_folded`). Together:

> `Expr.read_variants`: variants are read alike, or refused alike.
-/

namespace Tabletop

namespace Token

/-- A text without its spaces and tabs, and with small ASCII letters for the capital ones. -/
def folded (text : List Char) : List Char :=
  (text.filter fun c => !isFiller c).map Char.toLower

/-- The ordinary small sigma for the one that ends a word. -/
def settledChar (c : Char) : Char := if c = '\u03c2' then '\u03c3' else c

/-- A token with its small sigmas in one form. -/
def settled : Token → Token
  | sign s => sign s
  | word cs => word (cs.map settledChar)

/-! ## What is scanned of a variant -/

theorem folded_cons (c : Char) (text : List Char) :
    folded (c :: text) = (if isFiller c then [] else [c.toLower]) ++ folded text := by
  cases hf : isFiller c <;> simp [folded, hf]

theorem toLower_of_not_ascii {c : Char} (h : 0x80 ≤ c.toNat) : c.toLower = c := by
  unfold Char.toLower
  refine dif_neg fun ⟨_, hle⟩ => ?_
  rw [UInt32.le_iff_toNat_le] at hle
  exact absurd (Nat.le_trans h hle) (by decide)

theorem toLower_ascii {c : Char} (h : c.toNat < 0x80) :
    c.toLower.toNat < 0x80 ∧ c.toLower.toLower = c.toLower := by
  refine of_forall_ascii h ?_
  decide +kernel

/-- Whether a letter of ASCII is a capital makes no difference to its small form. -/
theorem lowerChar_toLower (c : Char) : Text.lowerChar c.toLower = Text.lowerChar c := by
  by_cases ha : c.toNat < 0x80
  · obtain ⟨hlower, hidem⟩ := toLower_ascii ha
    rw [Text.lowerChar_of_ascii hlower, Text.lowerChar_of_ascii ha, hidem]
  · rw [toLower_of_not_ascii (Nat.not_lt.mp ha)]

/-- Nothing but a blank is lowered to a blank. -/
theorem not_isFiller_of_mem_lowerAt {before after : List Char} {c x : Char}
    (hf : isFiller c = false) (hx : x ∈ Text.lowerAt before c after) : isFiller x = false := by
  by_cases ha : c.toNat < 0x80
  · rw [lowerAt_of_ascii ha, List.mem_singleton] at hx
    obtain ⟨-, hmark, hother⟩ := toLower_of_ascii ha
    rw [hx]
    cases hm : isMark (normal c) with
    | true =>
      rw [hmark hm]
      exact not_isFiller_of_isMark hm
    | false => exact (hother hf hm).1
  · exact (foreign_of_mem_lowerAt (Nat.not_lt.mp ha) hx).1

theorem filter_lowerAt_of_isFiller {before after : List Char} {c : Char} (hf : isFiller c = true) :
    (Text.lowerAt before c after).filter (fun x => !isFiller x) = [] := by
  have ha := ascii_of_isFiller hf
  rw [lowerAt_of_ascii ha, (toLower_of_ascii ha).1 hf]
  simp [hf]

theorem filter_lowerAt_of_not_isFiller {before after : List Char} {c : Char}
    (hf : isFiller c = false) :
    (Text.lowerAt before c after).filter (fun x => !isFiller x) = Text.lowerAt before c after := by
  rw [List.filter_eq_self]
  intro x hx
  rw [not_isFiller_of_mem_lowerAt hf hx]
  rfl

/-- A character other than the capital sigma is lowered on its own. -/
theorem lowerAt_of_ne {before after : List Char} {c : Char} (h : c ≠ '\u03a3') :
    Text.lowerAt before c after = Text.lowerChar c.toLower := by
  rw [Text.lowerAt, if_neg h, lowerChar_toLower]

/-- The capital sigma is lowered to one of the small ones, and never mind which. -/
theorem map_settledChar_lowerAt (before : List Char) (c : Char) (after : List Char) :
    (Text.lowerAt before c after).map settledChar =
      (Text.lowerChar c.toLower).map settledChar := by
  by_cases hs : c = '\u03a3'
  · have hordinary : (Text.lowerChar '\u03a3').map settledChar = ['\u03c3'] := by decide +kernel
    rw [lowerChar_toLower, hs, hordinary, Text.lowerAt, if_pos rfl, Text.lowerSigma]
    split <;> decide
  · rw [lowerAt_of_ne hs]

/-- What is scanned of a text is fixed by the folded text, as far as the characters do not tell their
neighbours by their small forms. -/
theorem map_spelledAfter (f : Char → Char) {text : List Char}
    (h : ∀ c ∈ text, ∀ before after,
      (Text.lowerAt before c after).map f = (Text.lowerChar c.toLower).map f) (before : List Char) :
    (spelledAfter before text).map f =
      (folded text).flatMap fun c => (Text.lowerChar c).map f := by
  induction text generalizing before with
  | nil => rfl
  | cons c text ih =>
    obtain ⟨hc, hrest⟩ := List.forall_mem_cons.1 h
    rw [spelledAfter_cons, folded_cons, List.flatMap_append, List.map_append, ih hrest]
    cases hf : isFiller c with
    | true =>
      rw [filter_lowerAt_of_isFiller hf]
      rfl
    | false =>
      rw [filter_lowerAt_of_not_isFiller hf, hc]
      simp

/-- Without a capital sigma nothing depends on the neighbours. -/
theorem spelled_eq_flatMap {text : List Char} (h : '\u03a3' ∉ text) :
    spelled text = (folded text).flatMap Text.lowerChar := by
  have hlower : ∀ c ∈ text, ∀ before after,
      (Text.lowerAt before c after).map id = (Text.lowerChar c.toLower).map id := by
    intro c hc before after
    rw [lowerAt_of_ne (ne_of_mem_of_not_mem hc h)]
  have hsame := map_spelledAfter id hlower []
  simp only [List.map_id] at hsame
  exact hsame

/-- Up to the small sigmas, what is scanned of a text is fixed by the folded text. -/
theorem map_settledChar_spelled (text : List Char) :
    (spelled text).map settledChar =
      (folded text).flatMap fun c => (Text.lowerChar c).map settledChar :=
  map_spelledAfter settledChar (fun c _ before after => map_settledChar_lowerAt before c after) []

/-- Folding neither adds nor removes a capital sigma. -/
theorem mem_folded_sigma_iff {text : List Char} : '\u03a3' ∈ folded text ↔ '\u03a3' ∈ text := by
  unfold folded
  rw [List.mem_map]
  refine ⟨fun ⟨c, hc, heq⟩ => ?_, fun h => ⟨'\u03a3', List.mem_filter.mpr ⟨h, rfl⟩, by decide⟩⟩
  have hmem := (List.mem_filter.mp hc).1
  by_cases ha : c.toNat < 0x80
  · have hlower := (toLower_ascii ha).1
    rw [heq] at hlower
    exact absurd hlower (by decide)
  · rw [toLower_of_not_ascii (Nat.not_lt.mp ha)] at heq
    rwa [heq] at hmem

/-! ## Tokens with their sigmas settled -/

theorem ofChar?_settledChar (c : Char) : Sign.ofChar? (settledChar c) = Sign.ofChar? c := by
  unfold settledChar
  by_cases hc : c = '\u03c2'
  · rw [if_pos hc, hc]
    rfl
  · rw [if_neg hc]

/-- Small sigmas have no part in where a text is cut. -/
theorem scan_map_settledChar (cs : List Char) :
    scan (cs.map settledChar) = (scan cs).map settled := by
  induction cs with
  | nil => rfl
  | cons c cs ih =>
    rw [List.map_cons, scan, scan, ofChar?_settledChar, ih]
    cases hc : Sign.ofChar? c with
    | some s =>
      rw [Sign.ofChar?_eq_some_iff.1 hc]
      rfl
    | none =>
      show joinFront (settledChar c) ((scan cs).map settled) = (joinFront c (scan cs)).map settled
      cases scan cs with
      | nil => rfl
      | cons t rest => cases t <;> rfl

/-- The tokens of variants are the same up to their sigmas. -/
theorem map_settled_ofText {text text' : List Char} (h : folded text = folded text') :
    (ofText text).map settled = (ofText text').map settled := by
  rw [ofText_eq_scan, ofText_eq_scan, ← scan_map_settledChar, ← scan_map_settledChar,
    map_settledChar_spelled, map_settledChar_spelled, h]

theorem WellFormed.settled {t : Token} (h : t.WellFormed) : t.settled.WellFormed := by
  cases t with
  | sign s => trivial
  | word cs =>
    refine ⟨fun hnil => h.1 (List.map_eq_nil_iff.mp hnil), fun c hc => ?_⟩
    obtain ⟨x, hx, rfl⟩ := List.mem_map.mp hc
    rw [ofChar?_settledChar]
    exact h.2 x hx

/-- No sigma is a mark, in either form. -/
theorem map_settledChar_eq_self {cs : List Char}
    (h : (∀ c ∈ cs, isMark c = true) ∨ ∀ c ∈ cs, isMark (settledChar c) = true) :
    cs.map settledChar = cs := by
  have hself : ∀ c ∈ cs, settledChar c = c := by
    intro c hc
    refine if_neg fun heq => ?_
    have hmark : isMark c = true ∨ isMark (settledChar c) = true := h.imp (· c hc) (· c hc)
    rw [heq] at hmark
    exact absurd hmark (by decide)
  rw [List.map_congr_left hself, List.map_id']

/-- To settle the sigmas makes no word a term, and no term another word. -/
theorem isTerm_settled_iff {t : Token} (hw : t.WellFormed) : t.settled.IsTerm ↔ t.IsTerm := by
  cases t with
  | sign s => exact Iff.rfl
  | word cs =>
    have hterm : ∀ {text : List Char}, (word text).WellFormed → (word text).IsTerm →
        ∀ c ∈ text, isMark c = true := by
      intro text hw ⟨t, ht⟩
      exact ((Term.read_word_eq_ok_iff hw.2).1 ht).isMark
    refine ⟨fun h => ?_, fun h => ?_⟩
    · have hself := map_settledChar_eq_self (.inr fun c hc =>
        hterm hw.settled h _ (List.mem_map_of_mem hc))
      rwa [settled, hself] at h
    · rwa [settled, map_settledChar_eq_self (.inl (hterm hw h))]

/-- Tokens that are the same up to their sigmas are terms or none together. -/
theorem isTerm_of_settled_eq {t t' : Token} (hw : t.WellFormed) (hw' : t'.WellFormed)
    (h : t.settled = t'.settled) : t.IsTerm ↔ t'.IsTerm := by
  rw [← isTerm_settled_iff hw, h, isTerm_settled_iff hw']

theorem settled_eq_sign_iff {t : Token} {s : Sign} : t.settled = sign s ↔ t = sign s := by
  cases t with
  | sign s' => exact Iff.rfl
  | word cs => exact ⟨fun h => (nomatch h), fun h => (nomatch h)⟩

theorem exists_word_of_settled_eq {t : Token} {cs : List Char} (h : t.settled = (word cs).settled) :
    ∃ cs', t = word cs' := by
  cases t with
  | sign s => cases h
  | word cs' => exact ⟨cs', rfl⟩

end Token

/-! ## Complaints about variants -/

/-- Two complaints of the same kind, whatever the tokens are that they name. -/
def ReadError.SameKind : ReadError → ReadError → Prop
  | notValid _, notValid _ => True
  | cannotFollow _ _, cannotFollow _ _ => True
  | cannotEnd _, cannotEnd _ => True
  | _, _ => False

namespace Expr

theorem signedFront_map_settled (tokens : List Token) :
    signedFront (tokens.map Token.settled) = (signedFront tokens).map Token.settled := by
  cases tokens with
  | nil => rfl
  | cons t rest => cases t <;> rfl

theorem map_settled_row {text text' : String}
    (h : Token.folded text.toList = Token.folded text'.toList) :
    (row text).map Token.settled = (row text').map Token.settled := by
  unfold row
  rw [← signedFront_map_settled, ← signedFront_map_settled, Token.map_settled_ofText h]

/-- Two rows of tokens that are the same up to their sigmas. -/
structure SameRow (row row' : List Token) : Prop where
  wellFormed : ∀ t ∈ row, t.WellFormed
  wellFormed' : ∀ t ∈ row', t.WellFormed
  settled : row.map Token.settled = row'.map Token.settled

namespace SameRow

variable {row row' : List Token}

theorem length_eq (h : SameRow row row') : row.length = row'.length := by
  have hlength := congrArg List.length h.settled
  rwa [List.length_map, List.length_map] at hlength

/-- At the place of a token stands one that is the same up to its sigmas. -/
theorem exists_settled_eq (h : SameRow row row') {i : Nat} {t : Token} (ht : row[i]? = some t) :
    ∃ t', row'[i]? = some t' ∧ t'.settled = t.settled := by
  have hi : (row.map Token.settled)[i]? = (row'.map Token.settled)[i]? := by rw [h.settled]
  rw [List.getElem?_map, List.getElem?_map, ht] at hi
  exact Option.map_eq_some_iff.1 hi.symm

theorem getElem?_sign (h : SameRow row row') {i : Nat} {s : Sign} (hs : row[i]? = some (.sign s)) :
    row'[i]? = some (.sign s) := by
  obtain ⟨t', ht', hsettled⟩ := h.exists_settled_eq hs
  rw [ht', Token.settled_eq_sign_iff.1 hsettled]

theorem exists_word (h : SameRow row row') {i : Nat} {cs : List Char}
    (hcs : row[i]? = some (.word cs)) :
    ∃ cs', row'[i]? = some (.word cs') ∧ ((Token.word cs).IsTerm ↔ (Token.word cs').IsTerm) := by
  obtain ⟨t', ht', hsettled⟩ := h.exists_settled_eq hcs
  obtain ⟨cs', rfl⟩ := Token.exists_word_of_settled_eq hsettled
  have hterm := Token.isTerm_of_settled_eq (h.wellFormed _ (List.mem_of_getElem? hcs))
    (h.wellFormed' _ (List.mem_of_getElem? ht')) hsettled.symm
  exact ⟨cs', ht', hterm⟩

theorem fits (h : SameRow row row') {i : Nat} (hfits : Fits row i) : Fits row' i := by
  obtain ⟨s, t, hs, ht, hterm⟩ := hfits
  cases t with
  | sign s' => exact hterm.elim
  | word cs =>
    obtain ⟨cs', hcs', hiff⟩ := h.exists_word ht
    exact ⟨s, .word cs', h.getElem?_sign hs, hcs', hiff.1 hterm⟩

/-- There is a complaint of the same kind about the same places. -/
theorem complaint (h : SameRow row row') {places : List Nat} {e : ReadError}
    (hc : Complaint row places e) : ∃ e', Complaint row' places e' ∧ e.SameKind e' := by
  have hlength := h.length_eq
  cases hc with
  | @dangling last hodd hlast =>
    rw [List.getLast?_eq_getElem?] at hlast
    obtain ⟨last', hlast', -⟩ := h.exists_settled_eq hlast
    rw [hlength] at hodd hlast' ⊢
    rw [← List.getLast?_eq_getElem?] at hlast'
    exact ⟨_, .dangling hodd hlast', trivial⟩
  | secondSign heven hfits hs hs' =>
    rw [hlength] at heven
    exact ⟨_, .secondSign heven (fun j hj => h.fits (hfits j hj)) (h.getElem?_sign hs)
      (h.getElem?_sign hs'), trivial⟩
  | noTerm heven hfits hs hcs hterm =>
    obtain ⟨cs', hcs', hiff⟩ := h.exists_word hcs
    rw [hlength] at heven
    exact ⟨_, .noTerm heven (fun j hj => h.fits (hfits j hj)) (h.getElem?_sign hs) hcs'
      fun hterm' => hterm (hiff.2 hterm'), trivial⟩

end SameRow

end Expr

/-! ## Reading variants -/

/-- Folding is all that reading does to a text of marks. -/
theorem Token.condensed_eq_folded {text : List Char}
    (h : (∀ c ∈ condensed text, isMark c = true) ∨ ∀ c ∈ folded text, isMark c = true) :
    condensed text = folded text := by
  refine List.map_congr_left fun c hc => ?_
  have hf : isFiller c = false := by
    have hc := (List.mem_filter.mp hc).2
    rwa [Bool.not_eq_true'] at hc
  have hmark : isMark (normal c) = true ∨ isMark c.toLower = true :=
    h.imp (· _ (List.mem_map_of_mem hc)) (· _ (List.mem_map_of_mem hc))
  by_cases ha : c.toNat < 0x80
  · obtain ⟨-, hlower, hother⟩ := toLower_of_ascii ha
    cases hm : isMark (normal c) with
    | true => exact (hlower hm).symm
    | false =>
      rw [hm, (hother hf hm).2] at hmark
      exact absurd hmark (by decide)
  · rw [normal_of_not_ascii (Nat.not_lt.mp ha), toLower_of_not_ascii (Nat.not_lt.mp ha)]

namespace Expr

/-- A text is read as an expression exactly when its folded form notates the expression. -/
theorem read_eq_ok_iff_folded {text : String} {e : Expr} :
    read text = .ok e ↔ Notated (Token.folded text.toList) e := by
  rw [read_eq_ok_iff]
  refine ⟨fun h => ?_, fun h => ?_⟩
  · rw [← Token.condensed_eq_folded (.inl h.isMark)]
    exact h
  · rw [Token.condensed_eq_folded (.inr h.isMark)]
    exact h

/-- **Layout and letter case never matter.** Texts that are the same without their spaces and tabs
and with small ASCII letters for the capital ones are read as the same expression, or refused with
complaints of the same kind; and if there is no capital sigma in them, with the same complaint. -/
theorem read_variants {text text' : String}
    (h : Token.folded text.toList = Token.folded text'.toList) :
    (∀ e, read text = .ok e ↔ read text' = .ok e) ∧
    (∀ x, read text = .error x → ∃ y, read text' = .error y ∧ x.SameKind y) ∧
    ('\u03a3' ∉ text.toList → '\u03a3' ∉ text'.toList ∧ read text = read text') := by
  refine ⟨fun e => ?_, fun x hx => ?_, fun hs => ?_⟩
  · rw [read_eq_ok_iff_folded, read_eq_ok_iff_folded, h]
  · obtain ⟨places, hc⟩ := read_eq_error_iff.1 hx
    have hrow : SameRow (row text) (row text') :=
      ⟨wellFormed_of_mem_row text, wellFormed_of_mem_row text', map_settled_row h⟩
    obtain ⟨y, hy, hkind⟩ := hrow.complaint hc
    exact ⟨y, read_eq_error_iff.2 ⟨places, hy⟩, hkind⟩
  · have hs' : '\u03a3' ∉ text'.toList := by
      rw [← Token.mem_folded_sigma_iff, ← h, Token.mem_folded_sigma_iff]
      exact hs
    refine ⟨hs', ?_⟩
    rw [read, read, Token.ofText_eq_scan, Token.ofText_eq_scan, Token.spelled_eq_flatMap hs,
      Token.spelled_eq_flatMap hs', h]

/-- With a blank behind it the sigma ends a word, and without one it does not. -/
theorem read_variants_sigma :
    Token.folded "A\u03a3 b".toList = Token.folded "\ta\u03a3B".toList ∧
      read "A\u03a3 b" = .error (.notValid "a\u03c2b") ∧
      read "\ta\u03a3B" = .error (.notValid "a\u03c3b") ∧
      ∃ y, read "\ta\u03a3B" = .error y ∧ (ReadError.notValid "a\u03c2b").SameKind y := by
  have h : Token.folded "A\u03a3 b".toList = Token.folded "\ta\u03a3B".toList := by decide +kernel
  have hread : read "A\u03a3 b" = .error (.notValid "a\u03c2b") := by decide +kernel
  exact ⟨h, hread, by decide +kernel, (read_variants h).2.1 _ hread⟩

end Expr

end Tabletop
