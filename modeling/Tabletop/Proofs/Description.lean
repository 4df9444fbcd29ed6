import Tabletop.Proofs.Exact
import Tabletop.Proofs.Notation

/-!
# What a description tells

A description strings the signed terms together with nothing in between, a constant may bring a minus
of its own, and one plus is left out. Still it tells what was rolled, up to one thing: whether a
minus at its front belongs to the first term or to the constant in it (`Expr.Twins`).

> `description_eq_iff_twins`: two expressions have the same description exactly when they are equal
> or twins.

As long as no plus is left out, the signs can be told from the constants by the tokens: a term is
written as one word, or as a minus and one word (`Term.scan_text`), so what stands behind the sign of
a term says where the next one starts (`Term.scan_text_append_inj`). To leave out a plus hurts only
in front of a minus, and then that minus is followed by a word on either reading.

Twins take the same dice and roll alike: a constant that is subtracted adds its opposite.
-/

namespace Tabletop

variable {σ : Type}

/-! ## Terms as tokens -/

namespace Term

/-- The written form of a term without the minus that a constant may have of its own. -/
def bare : Term → List Char
  | constant value => Numeral.ofNat value.toInt.natAbs
  | dice d => d.text

theorem text_of_isNegative {t : Term} (h : t.IsNegative) : t.text = '-' :: t.bare := by
  cases t with
  | dice d => exact h.elim
  | constant v =>
    have hneg : v.toInt < 0 := h
    show Numeral.ofInt v.toInt = '-' :: Numeral.ofNat v.toInt.natAbs
    cases hv : v.toInt with
    | ofNat n =>
      rw [hv] at hneg
      exact absurd hneg (Int.not_lt.mpr (Int.natCast_nonneg n))
    | negSucc n => rfl

theorem text_of_not_isNegative {t : Term} (h : ¬t.IsNegative) : t.text = t.bare := by
  cases t with
  | dice d => rfl
  | constant v =>
    have hnonneg : ¬v.toInt < 0 := h
    show Numeral.ofInt v.toInt = Numeral.ofNat v.toInt.natAbs
    cases hv : v.toInt with
    | ofNat n => rfl
    | negSucc n =>
      rw [hv] at hnonneg
      exact absurd (Int.negSucc_lt_zero n) hnonneg

theorem wellFormed_bare (t : Term) : (Token.word t.bare).WellFormed := by
  cases t with
  | constant v =>
    have hd := Numeral.denotes_ofNat v.toInt.natAbs
    exact ⟨hd.ne_nil, fun c hc => Sign.ofChar?_eq_none_of_isDigit (hd.isDigit c hc)⟩
  | dice d =>
    have hdice : ¬(dice d).IsNegative := not_false
    have hn : Notated d.text (dice d) := notated_text hdice
    exact ⟨hn.ne_nil, hn.ofChar?_eq_none⟩

theorem isMark_bare (t : Term) : ∀ c ∈ t.bare, Token.isMark c = true := by
  cases t with
  | constant v =>
    intro c hc
    simp [Token.isMark, (Numeral.denotes_ofNat v.toInt.natAbs).isDigit c hc]
  | dice d =>
    have hdice : ¬(dice d).IsNegative := not_false
    exact (notated_text hdice).isMark

theorem isMark_text (t : Term) : ∀ c ∈ t.text, Token.isMark c = true := by
  by_cases h : t.IsNegative
  · rw [text_of_isNegative h]
    exact List.forall_mem_cons.mpr ⟨by decide, t.isMark_bare⟩
  · rw [text_of_not_isNegative h]
    exact t.isMark_bare

/-- A term is written as one word, behind a minus if it is a negative constant. -/
theorem scan_text (t : Term) :
    Token.scan t.text =
      if t.IsNegative then [.sign .minus, .word t.bare] else [.word t.bare] := by
  obtain ⟨hne, hs⟩ := t.wellFormed_bare
  by_cases h : t.IsNegative
  · have htext : t.text = Sign.minus.glyph :: t.bare := text_of_isNegative h
    rw [if_pos h, htext, Token.scan_glyph, Token.scan_word hne hs]
  · rw [if_neg h, text_of_not_isNegative h, Token.scan_word hne hs]

/-- The tokens of a term tell the term and where it ends. -/
theorem scan_text_append_inj {t u : Term} {xs ys : List Token}
    (h : Token.scan t.text ++ xs = Token.scan u.text ++ ys) : t = u ∧ xs = ys := by
  rw [t.scan_text, u.scan_text] at h
  by_cases ht : t.IsNegative
  · by_cases hu : u.IsNegative
    · rw [if_pos ht, if_pos hu] at h
      obtain ⟨hword, hrest⟩ := List.cons.inj (List.cons.inj h).2
      refine ⟨text_injective ?_, hrest⟩
      rw [text_of_isNegative ht, text_of_isNegative hu, Token.word.inj hword]
    · rw [if_pos ht, if_neg hu] at h
      cases h
  · by_cases hu : u.IsNegative
    · rw [if_neg ht, if_pos hu] at h
      cases h
    · rw [if_neg ht, if_neg hu] at h
      obtain ⟨hword, hrest⟩ := List.cons.inj h
      refine ⟨text_injective ?_, hrest⟩
      rw [text_of_not_isNegative ht, text_of_not_isNegative hu, Token.word.inj hword]

/-- Only a constant is written like one. -/
theorem exists_constant_of_bare_eq {v : Int64} {u : Term} (h : (constant v).bare = u.bare) :
    ∃ c, u = constant c ∧ v.toInt.natAbs = c.toInt.natAbs := by
  have hv : Numeral.ofNat v.toInt.natAbs = u.bare := h
  cases u with
  | constant c => exact ⟨c, rfl, Numeral.ofNat_injective hv⟩
  | dice d =>
    -- dice have a `d` among their digits
    have hd : 'd' ∈ d.text := List.mem_append_right _ List.mem_cons_self
    have hv : Numeral.ofNat v.toInt.natAbs = d.text := hv
    rw [← hv] at hd
    exact absurd hd (Numeral.denotes_ofNat _).not_mem

end Term

namespace SignedTerm

theorem startsSigned_flatMap_text (ts : List SignedTerm) :
    Token.StartsSigned (ts.flatMap text) := by
  cases ts with
  | nil => exact .inl rfl
  | cons t ts => exact .inr ⟨t.sign, t.term.text ++ ts.flatMap text, rfl⟩

/-- Signed terms are scanned one by one, each into its sign and its term. -/
theorem scan_flatMap_text (ts : List SignedTerm) :
    Token.scan (ts.flatMap text) = ts.flatMap fun t => .sign t.sign :: Token.scan t.term.text := by
  induction ts with
  | nil => rfl
  | cons t ts ih =>
    show Token.scan (t.sign.glyph :: (t.term.text ++ ts.flatMap text)) = _
    rw [Token.scan_glyph, Token.scan_append (startsSigned_flatMap_text ts), ih]
    rfl

/-- With every sign written out, no two rows of terms are written alike. -/
theorem flatMap_text_injective {ts us : List SignedTerm} (h : ts.flatMap text = us.flatMap text) :
    ts = us := by
  have hscan := congrArg Token.scan h
  rw [scan_flatMap_text, scan_flatMap_text] at hscan
  clear h
  induction ts generalizing us with
  | nil =>
    cases us with
    | nil => rfl
    | cons u us => cases hscan
  | cons t ts ih =>
    cases us with
    | nil => cases hscan
    | cons u us =>
      obtain ⟨hsign, hrest⟩ := List.cons.inj hscan
      obtain ⟨hterm, htail⟩ := Term.scan_text_append_inj hrest
      rw [ih htail]
      obtain ⟨sign, term⟩ := t
      obtain ⟨sign', term'⟩ := u
      cases hterm
      cases Token.sign.inj hsign
      rfl

end SignedTerm

/-! ## Descriptions -/

namespace Expr

/-- The first expression starts by adding the opposite of the positive constant that the second one
starts by subtracting, and they go on alike. -/
def Twins (a b : Expr) : Prop :=
  ∃ (c opposite : Int64) (rest : List SignedTerm), 0 < c.toInt ∧ opposite.toInt = -c.toInt ∧
    a.terms = ⟨.plus, .constant opposite⟩ :: rest ∧ b.terms = ⟨.minus, .constant c⟩ :: rest

/-- Descriptions consist of marks, those of negative constants too. -/
theorem isMark_text (e : Expr) : ∀ c ∈ e.text, Token.isMark c = true := by
  have hdrop : ∀ {text : List Char}, ∀ c ∈ dropPlus text, c ∈ text := by
    intro text c hc
    unfold dropPlus at hc
    split at hc
    · exact List.mem_cons_of_mem _ hc
    · exact hc
  intro c hc
  obtain ⟨t, -, hct⟩ := List.mem_flatMap.mp (hdrop c hc)
  rcases List.mem_cons.mp hct with rfl | hterm
  · exact SignedTerm.isMark_glyph t.sign
  · exact t.term.isMark_text c hterm

/-- Twins are written alike. -/
theorem Twins.text_eq {a b : Expr} (h : Twins a b) : a.text = b.text := by
  obtain ⟨as⟩ := a
  obtain ⟨bs⟩ := b
  obtain ⟨c, opposite, rest, hpos, hopposite, rfl, rfl⟩ := h
  show Numeral.ofInt opposite.toInt ++ rest.flatMap SignedTerm.text =
    '-' :: (Numeral.ofInt c.toInt ++ rest.flatMap SignedTerm.text)
  rw [hopposite, Numeral.ofInt_neg hpos]
  rfl

/-- A minus at the front that could be either of the two is either of the two. -/
theorem twins_of_text_eq {t u : Term} {ts us : List SignedTerm}
    (h : (Expr.mk (⟨.plus, t⟩ :: ts)).text = (Expr.mk (⟨.minus, u⟩ :: us)).text) :
    Twins ⟨⟨.plus, t⟩ :: ts⟩ ⟨⟨.minus, u⟩ :: us⟩ := by
  have htext : t.text ++ ts.flatMap SignedTerm.text =
      Sign.minus.glyph :: (u.text ++ us.flatMap SignedTerm.text) := h
  have hscan := congrArg Token.scan htext
  rw [Token.scan_glyph, Token.scan_append (SignedTerm.startsSigned_flatMap_text ts),
    Token.scan_append (SignedTerm.startsSigned_flatMap_text us), t.scan_text, u.scan_text] at hscan
  by_cases ht : t.IsNegative
  · by_cases hu : u.IsNegative
    · -- the second minus of `u` meets the word of `t`
      rw [if_pos ht, if_pos hu] at hscan
      cases (List.cons.inj hscan).2
    · rw [if_pos ht, if_neg hu] at hscan
      obtain ⟨hword, hrest⟩ := List.cons.inj (List.cons.inj hscan).2
      have hrest : Token.scan (ts.flatMap SignedTerm.text) =
          Token.scan (us.flatMap SignedTerm.text) := hrest
      have htail : ts.flatMap SignedTerm.text = us.flatMap SignedTerm.text := by
        rw [← Token.flatMap_text_scan (ts.flatMap SignedTerm.text), hrest, Token.flatMap_text_scan]
      cases t with
      | dice d => exact ht.elim
      | constant v =>
        obtain ⟨c, rfl, habs⟩ := Term.exists_constant_of_bare_eq (Token.word.inj hword)
        have hneg : v.toInt < 0 := ht
        have hnonneg : ¬c.toInt < 0 := hu
        refine ⟨c, v, us, by omega, by omega, ?_, rfl⟩
        rw [SignedTerm.flatMap_text_injective htail]
  · -- without a sign of its own, `t` starts with a word
    rw [if_neg ht] at hscan
    cases hscan

/-- Only the expression without terms is written by nothing. -/
theorem text_plus_ne_nil (t : Term) (ts : List SignedTerm) :
    (Expr.mk (⟨.plus, t⟩ :: ts)).text ≠ [] := by
  intro h
  have htext : t.text ++ ts.flatMap SignedTerm.text = [] := h
  have hscan := t.scan_text
  rw [(List.append_eq_nil_iff.mp htext).1] at hscan
  by_cases ht : t.IsNegative
  · rw [if_pos ht] at hscan
    cases hscan
  · rw [if_neg ht] at hscan
    cases hscan

theorem text_ne_nil {e : Expr} (h : e.terms ≠ []) : e.text ≠ [] := by
  obtain ⟨ts⟩ := e
  match ts, h with
  | ⟨.plus, t⟩ :: ts, _ => exact text_plus_ne_nil t ts
  | ⟨.minus, t⟩ :: ts, _ => exact List.cons_ne_nil _ _

theorem text_eq_iff (a b : Expr) : a.text = b.text ↔ a = b ∨ Twins a b ∨ Twins b a := by
  refine ⟨fun h => ?_, fun h => ?_⟩
  · obtain ⟨as⟩ := a
    obtain ⟨bs⟩ := b
    match as, bs, h with
    | [], [], _ => exact .inl rfl
    | [], ⟨.plus, u⟩ :: us, h => exact absurd h.symm (text_plus_ne_nil u us)
    | [], ⟨.minus, u⟩ :: us, h => cases h
    | ⟨.plus, t⟩ :: ts, [], h => exact absurd h (text_plus_ne_nil t ts)
    | ⟨.minus, t⟩ :: ts, [], h => cases h
    | ⟨.plus, t⟩ :: ts, ⟨.plus, u⟩ :: us, h =>
      have hfull : (⟨.plus, t⟩ :: ts : List SignedTerm).flatMap SignedTerm.text =
          (⟨.plus, u⟩ :: us : List SignedTerm).flatMap SignedTerm.text := congrArg ('+' :: ·) h
      rw [SignedTerm.flatMap_text_injective hfull]
      exact .inl rfl
    | ⟨.minus, t⟩ :: ts, ⟨.minus, u⟩ :: us, h =>
      have hfull : (⟨.minus, t⟩ :: ts : List SignedTerm).flatMap SignedTerm.text =
          (⟨.minus, u⟩ :: us : List SignedTerm).flatMap SignedTerm.text := h
      rw [SignedTerm.flatMap_text_injective hfull]
      exact .inl rfl
    | ⟨.plus, t⟩ :: ts, ⟨.minus, u⟩ :: us, h => exact .inr (.inl (twins_of_text_eq h))
    | ⟨.minus, t⟩ :: ts, ⟨.plus, u⟩ :: us, h => exact .inr (.inr (twins_of_text_eq h.symm))
  · rcases h with rfl | h | h
    · rfl
    · exact h.text_eq
    · exact h.text_eq.symm

/-! ## Rolling twins -/

/-- To add the opposite of a constant is to subtract the constant. -/
theorem addTerm_opposite {c opposite : Int64} (h : opposite.toInt = -c.toInt) (r : Roller σ)
    (total : Int64) :
    addTerm r total ⟨.plus, .constant opposite⟩ = addTerm r total ⟨.minus, .constant c⟩ := by
  have hneg : Checked.neg c = .ok opposite := Checked.narrow_eq_ok_iff.2 h
  have hresolve : SignedTerm.resolve r ⟨.plus, .constant opposite⟩ =
      SignedTerm.resolve r ⟨.minus, .constant c⟩ := by
    show RollM.ofExcept (.ok opposite) = RollM.ofExcept (Checked.neg c)
    rw [hneg]
  unfold addTerm
  rw [hresolve]

theorem Twins.draws_eq {a b : Expr} (h : Twins a b) : a.draws = b.draws := by
  obtain ⟨as⟩ := a
  obtain ⟨bs⟩ := b
  obtain ⟨c, opposite, rest, -, -, rfl, rfl⟩ := h
  rfl

theorem Twins.roll_eq {a b : Expr} (h : Twins a b) (r : Roller σ) : a.roll r = b.roll r := by
  have hlog : a.description = b.description := congrArg String.ofList h.text_eq
  obtain ⟨c, opposite, rest, -, hopposite, ha, hb⟩ := h
  unfold roll total
  rw [hlog, ha, hb, List.foldlM_cons, List.foldlM_cons, addTerm_opposite hopposite]

/-- **A description tells what was rolled.** Two expressions have the same description exactly when
they are equal, or when one starts by adding the opposite of the positive constant that the other
starts by subtracting and they go on alike. Either way they take the same number of dice, and from
every state of every roller their rolls end alike, with a result or without one, and leave the same
state. -/
theorem description_eq_iff_twins (a b : Expr) :
    (a.description = b.description ↔ a = b ∨ Twins a b ∨ Twins b a) ∧
      (a.description = b.description →
        a.draws = b.draws ∧
          ∀ {σ : Type} (r : Roller σ) (s : σ), a.roll r s = b.roll r s) := by
  have hiff : a.description = b.description ↔ a = b ∨ Twins a b ∨ Twins b a :=
    String.ofList_inj.trans (text_eq_iff a b)
  refine ⟨hiff, fun h => ?_⟩
  rcases hiff.1 h with rfl | htwins | htwins
  · exact ⟨rfl, fun r s => rfl⟩
  · exact ⟨htwins.draws_eq, fun r s => by rw [htwins.roll_eq r]⟩
  · exact ⟨htwins.draws_eq.symm, fun r s => by rw [htwins.roll_eq r]⟩

end Expr

end Tabletop
