import Tabletop.Expr.Reading
import Tabletop.Proofs.Groups
import Tabletop.Proofs.Layout
import Tabletop.Proofs.Term
import Tabletop.Proofs.Token

/-!
# Dice notation and its one reading

The grammar of notation, as a relation between a text without blanks and the expression it stands
for: terms, each with a sign in front, of which the first may be left out if it is a plus
(`Expr.Notated`). It is written without regard to tokens, pairs or the order in which the reader
looks at things.

The reader is brought to the grammar in two steps. `Paired` says what it is to read a row of tokens
as pairs, one pair after the other; `ofPairs_eq_ok_iff` shows that grouping the tokens first comes to
the same. Then the tokens go: a scanned text is paired exactly when it is a row of signed terms
(`paired_of_row`, `row_of_paired`), so that

> `ofTokens_scan_eq_ok_iff`: a text without blanks is read as `e` exactly when it notates `e`,

and with what `Layout` says about blanks and letter case

> `read_eq_ok_iff_notated`: any text is read as `e` exactly when its condensed form notates `e`.
-/

namespace Tabletop

open Numeral (Denotes)

/-! ## The grammar -/

/-- A row of terms with a sign in front of each, and the terms it stands for. -/
inductive SignedTerm.Row : List Char → List SignedTerm → Prop where
  | nil : Row [] []
  | cons {s : Sign} {word rest : List Char} {t : Term} {ts : List SignedTerm} :
    Term.Notated word t → Row rest ts → Row (s.glyph :: (word ++ rest)) (⟨s, t⟩ :: ts)

/-- Dice notation without blanks: a row of signed terms, or one whose first sign, a plus, is left
out. -/
inductive Expr.Notated : List Char → Expr → Prop where
  | signed {text : List Char} {ts : List SignedTerm} :
    SignedTerm.Row text ts → Notated text ⟨ts⟩
  | unsigned {word rest : List Char} {t : Term} {ts : List SignedTerm} :
    Term.Notated word t → SignedTerm.Row rest ts → Notated (word ++ rest) ⟨.plus t :: ts⟩

/-- A digit is no sign. -/
theorem Sign.ofChar?_eq_none_of_isDigit {c : Char} (h : c.isDigit = true) : ofChar? c = none := by
  cases hs : ofChar? c with
  | none => rfl
  | some s =>
    rw [ofChar?_eq_some_iff.1 hs] at h
    cases s with
    | plus => cases h
    | minus => cases h

/-- The characters of a term's notation are marks. -/
theorem Term.Notated.isMark {text : List Char} {t : Term} (h : Term.Notated text t) :
    ∀ c ∈ text, Token.isMark c = true := by
  intro c hc
  rcases h.isDigit_or_eq c hc with hd | rfl
  · simp [Token.isMark, hd]
  · decide

/-- None of them is a sign. -/
theorem Term.Notated.ofChar?_eq_none {text : List Char} {t : Term} (h : Term.Notated text t) :
    ∀ c ∈ text, Sign.ofChar? c = none := by
  intro c hc
  rcases h.isDigit_or_eq c hc with hd | rfl
  · exact Sign.ofChar?_eq_none_of_isDigit hd
  · rfl

namespace SignedTerm

theorem isMark_glyph (s : Sign) : Token.isMark s.glyph = true := by cases s <;> decide

/-- A row of signed terms consists of marks. -/
theorem Row.isMark {text : List Char} {ts : List SignedTerm} (h : Row text ts) :
    ∀ c ∈ text, Token.isMark c = true := by
  induction h with
  | nil => simp
  | cons hword _ ih =>
    intro c hc
    rcases List.mem_cons.mp hc with rfl | hc
    · exact isMark_glyph _
    · rcases List.mem_append.mp hc with hw | hr
      · exact hword.isMark c hw
      · exact ih c hr

/-- A row of signed terms starts with a sign. -/
theorem Row.startsSigned {text : List Char} {ts : List SignedTerm} (h : Row text ts) :
    Token.StartsSigned text := by
  cases h with
  | nil => exact .inl rfl
  | @cons s word rest t ts => exact .inr ⟨s, word ++ rest, rfl⟩

/-- No term of a row is a negative constant. -/
theorem Row.not_isNegative {text : List Char} {ts : List SignedTerm} (h : Row text ts) :
    ∀ t ∈ ts, ¬t.term.IsNegative := by
  induction h with
  | nil => simp
  | cons hword _ ih => exact List.forall_mem_cons.mpr ⟨hword.not_isNegative, ih⟩

end SignedTerm

/-- Notation consists of marks. -/
theorem Expr.Notated.isMark {text : List Char} {e : Expr} (h : Expr.Notated text e) :
    ∀ c ∈ text, Token.isMark c = true := by
  cases h with
  | signed hrow => exact hrow.isMark
  | unsigned hword hrow =>
    intro c hc
    rcases List.mem_append.mp hc with hw | hr
    · exact hword.isMark c hw
    · exact hrow.isMark c hr

/-- Notation stands for no negative constant. -/
theorem Expr.Notated.not_isNegative {text : List Char} {e : Expr} (h : Expr.Notated text e) :
    ∀ t ∈ e.terms, ¬t.term.IsNegative := by
  cases h with
  | signed hrow => exact hrow.not_isNegative
  | unsigned hword hrow =>
    exact List.forall_mem_cons.mpr ⟨hword.not_isNegative, hrow.not_isNegative⟩

/-- The sum without terms is notated by nothing. -/
theorem Expr.Notated.eq_nil {text : List Char} {e : Expr} (h : Expr.Notated text e)
    (hterms : e.terms = []) : text = [] := by
  cases h with
  | unsigned _ _ => cases hterms
  | signed hrow =>
    cases hrow with
    | nil => rfl
    | cons _ _ => cases hterms

/-! ## Reading pairs of tokens -/

/-- Tokens in pairs of a sign and a word, and the signed terms they are read as. -/
inductive SignedTerm.Paired : List Token → List SignedTerm → Prop where
  | nil : Paired [] []
  | cons {s : Sign} {cs : List Char} {t : Term} {rest : List Token} {ts : List SignedTerm} :
    Term.read cs = .ok t → Paired rest ts → Paired (.sign s :: .word cs :: rest) (⟨s, t⟩ :: ts)

namespace SignedTerm

/-- A group of two is its two elements. -/
theorem exists_eq_pair {α : Type} (pair : Vector α 2) : ∃ a b, pair = #v[a, b] := by
  obtain ⟨⟨xs⟩, hx⟩ := pair
  match xs, hx with
  | [a, b], _ => exact ⟨a, b, rfl⟩

theorem ofPair_sign_word (s : Sign) (cs : List Char) :
    ofPair #v[.sign s, .word cs] = match Term.read cs with
      | .ok term => .ok ⟨s, term⟩
      | .error _ => .error (.notValid (Token.word cs).name) := rfl

/-- A pair is read exactly when it is a sign and a word that is read as a term. -/
theorem ofPair_eq_ok_iff {a b : Token} {t : SignedTerm} :
    ofPair #v[a, b] = .ok t ↔
      ∃ cs, a = .sign t.sign ∧ b = .word cs ∧ Term.read cs = .ok t.term := by
  match a, b with
  | .word _, _ => exact ⟨fun h => (nomatch h), fun ⟨_, h, _⟩ => (nomatch h)⟩
  | .sign _, .sign _ => exact ⟨fun h => (nomatch h), fun ⟨_, _, h, _⟩ => (nomatch h)⟩
  | .sign s, .word cs =>
    rw [ofPair_sign_word]
    refine ⟨fun h => ?_, fun ⟨cs', hs, hcs, hr⟩ => ?_⟩
    · cases hr : Term.read cs with
      | error fault =>
        rw [hr] at h
        cases h
      | ok term =>
        rw [hr] at h
        cases h
        exact ⟨cs, rfl, rfl, hr⟩
    · cases hs
      cases hcs
      rw [hr]

/-- Reading groups of two, one after the other, is reading the tokens in pairs. -/
theorem mapM_ofPair_eq_ok_iff :
    ∀ {pairs : List (Vector Token 2)} {ts : List SignedTerm},
      pairs.mapM ofPair = .ok ts ↔ Paired (pairs.map Vector.toList).flatten ts := by
  intro pairs
  induction pairs with
  | nil =>
    intro ts
    refine ⟨fun h => ?_, fun h => ?_⟩
    · cases h
      exact .nil
    · cases h
      rfl
  | cons pair pairs ih =>
    intro ts
    obtain ⟨a, b, rfl⟩ := exists_eq_pair pair
    show _ ↔ Paired (a :: b :: (pairs.map Vector.toList).flatten) ts
    rw [List.mapM_cons]
    refine ⟨fun h => ?_, fun h => ?_⟩
    · cases hp : ofPair #v[a, b] with
      | error e =>
        rw [hp] at h
        cases h
      | ok t =>
        rw [hp] at h
        cases hps : pairs.mapM ofPair with
        | error e =>
          rw [hps] at h
          cases h
        | ok rest =>
          rw [hps] at h
          cases h
          obtain ⟨cs, rfl, rfl, hr⟩ := ofPair_eq_ok_iff.1 hp
          exact .cons hr (ih.1 hps)
    · cases h with
      | @cons s cs t _ ts hr hrest =>
        have hp : ofPair #v[.sign s, .word cs] = .ok ⟨s, t⟩ :=
          ofPair_eq_ok_iff.2 ⟨cs, rfl, rfl, hr⟩
        rw [hp, ih.2 hrest]
        rfl

/-- Tokens that are read in pairs can be grouped. -/
theorem Paired.exists_groups {tokens : List Token} {ts : List SignedTerm}
    (h : Paired tokens ts) :
    ∃ pairs : List (Vector Token 2), (pairs.map Vector.toList).flatten = tokens := by
  induction h with
  | nil => exact ⟨[], rfl⟩
  | @cons s cs _ _ _ _ _ ih =>
    obtain ⟨pairs, rfl⟩ := ih
    exact ⟨#v[.sign s, .word cs] :: pairs, rfl⟩

end SignedTerm

namespace Expr

/-- Tokens that start with a sign are read pair by pair. -/
theorem ofPairs_eq_ok_iff {tokens : List Token} {e : Expr} :
    ofPairs tokens = .ok e ↔ SignedTerm.Paired tokens e.terms := by
  unfold ofPairs
  split
  next pairs hp =>
    obtain ⟨-, rfl⟩ := Groups.exact_eq_ok_iff.1 hp
    rw [← SignedTerm.mapM_ofPair_eq_ok_iff]
    cases hm : pairs.mapM SignedTerm.ofPair with
    | error err => exact ⟨fun h => (nomatch h), fun h => (nomatch h)⟩
    | ok ts =>
      refine ⟨fun h => ?_, fun h => ?_⟩
      · cases h
        rfl
      · cases h
        rfl
  next err he =>
    refine ⟨fun h => (nomatch h), fun h => ?_⟩
    -- tokens that could not be grouped are not read in pairs
    obtain ⟨pairs, hflat⟩ := h.exists_groups
    rw [Groups.exact_eq_ok_iff.2 ⟨by decide, hflat⟩] at he
    cases he

end Expr

/-! ## Scanned texts -/

namespace SignedTerm

/-- A row of signed terms is scanned into the pairs it is written as. -/
theorem paired_of_row {text : List Char} {ts : List SignedTerm} (h : Row text ts) :
    Paired (Token.scan text) ts := by
  induction h with
  | nil => exact .nil
  | cons hword hrow ih =>
    rw [Token.scan_glyph, Token.scan_append hrow.startsSigned,
      Token.scan_word hword.ne_nil hword.ofChar?_eq_none]
    exact .cons ((Term.read_word_eq_ok_iff hword.ofChar?_eq_none).2 hword) ih

/-- Well-formed tokens that are read in pairs spell a row of signed terms. -/
theorem row_of_paired {tokens : List Token} {ts : List SignedTerm} (h : Paired tokens ts)
    (hw : ∀ t ∈ tokens, t.WellFormed) : Row (tokens.flatMap Token.text) ts := by
  induction h with
  | nil => exact .nil
  | @cons s cs t rest ts hr _ ih =>
    -- a scanned word holds no sign, so that it is read means that it is notation
    have hword := hw (.word cs) (by simp)
    have hrest : ∀ t ∈ rest, t.WellFormed := by
      intro t ht
      exact hw t (by simp [ht])
    show Row (s.glyph :: (cs ++ rest.flatMap Token.text)) _
    exact .cons ((Term.read_word_eq_ok_iff hword.2).1 hr) (ih hrest)

end SignedTerm

namespace Expr

/-- No plus is put in front of a text that starts with a sign. -/
theorem signedFront_scan {text : List Char} (h : Token.StartsSigned text) :
    signedFront (Token.scan text) = Token.scan text := by
  rcases h with rfl | ⟨s, rest, rfl⟩
  · rfl
  · rw [Token.scan_glyph]
    rfl

/-- A text without blanks is read as an expression exactly when it notates the expression. -/
theorem ofTokens_scan_eq_ok_iff {text : List Char} {e : Expr} :
    ofTokens (Token.scan text) = .ok e ↔ Notated text e := by
  obtain ⟨ts⟩ := e
  rw [ofTokens, ofPairs_eq_ok_iff]
  refine ⟨fun h => ?_, fun h => ?_⟩
  · have hw := Token.wellFormed_of_mem_scan text
    have hspell := Token.flatMap_text_scan text
    cases hscan : Token.scan text with
    | nil =>
      rw [hscan] at h hspell
      rw [← hspell]
      exact .signed (SignedTerm.row_of_paired h (by simp))
    | cons first rest =>
      rw [hscan] at h hw hspell
      rw [← hspell]
      cases first with
      | sign s => exact .signed (SignedTerm.row_of_paired h hw)
      | word cs =>
        -- the plus is not part of the text, so the first pair is taken apart
        cases h with
        | cons hr hrest =>
          have hword := hw (.word cs) (List.mem_cons_self ..)
          exact .unsigned ((Term.read_word_eq_ok_iff hword.2).1 hr)
            (SignedTerm.row_of_paired hrest fun t ht => hw t (List.mem_cons_of_mem _ ht))
  · cases h with
    | signed hrow =>
      rw [signedFront_scan hrow.startsSigned]
      exact SignedTerm.paired_of_row hrow
    | unsigned hword hrow =>
      rw [Token.scan_append hrow.startsSigned,
        Token.scan_word hword.ne_nil hword.ofChar?_eq_none]
      exact .cons ((Term.read_word_eq_ok_iff hword.ofChar?_eq_none).2 hword)
        (SignedTerm.paired_of_row hrow)

/-- A text is read as an expression exactly when its condensed form notates the expression. -/
theorem read_eq_ok_iff {text : String} {e : Expr} :
    read text = .ok e ↔ Notated (Token.condensed text.toList) e := by
  have hread : read text = .ok e ↔ Notated (Token.spelled text.toList) e := by
    rw [read, Token.ofText_eq_scan]
    exact ofTokens_scan_eq_ok_iff
  rw [hread]
  refine ⟨fun h => ?_, fun h => ?_⟩
  · rw [← Token.spelled_eq_condensed (.inl h.isMark)]
    exact h
  · rw [Token.spelled_eq_condensed (.inr h.isMark)]
    exact h

/-- **Reading accepts exactly dice notation.** A text is read as an expression exactly when, without
its spaces and tabs and with every `D` small, it notates that expression; and since notation has no
way to write a negative constant, no expression that is read holds one. -/
theorem read_eq_ok_iff_notated (text : String) :
    (∀ e, read text = .ok e ↔ Notated (Token.condensed text.toList) e) ∧
      ∀ e, read text = .ok e → ∀ t ∈ e.terms, ¬t.term.IsNegative :=
  ⟨fun _ => read_eq_ok_iff, fun _ h => (read_eq_ok_iff.1 h).not_isNegative⟩

end Expr

end Tabletop
