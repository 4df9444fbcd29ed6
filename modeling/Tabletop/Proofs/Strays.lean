import Tabletop.Proofs.Complaint
import Tabletop.Proofs.Description
import Tabletop.Proofs.RoundTrip

/-!
# Reading back negative constants

The minus of a negative constant stands in a description as a token of its own. Behind a sign that
is written out it is one token too many, a *stray* (`Expr.strays`). Only at the front of a
description, where a plus is left out, it takes the place of the sign, and is none.

Every stray moves the tokens behind it from one half of a pair to the other. What the reader makes
of that hangs first on how many there are, because it looks at no pair of an odd row, and then on
the first of them alone, because up to there nothing has moved (`Expr.complaint_behind_paired`).

> `read_description_of_isNegative`: with an odd number of strays the last word is complained about;
> with an even one the first stray, unless the description starts with a number too large to be
> read; and without strays the description is read as the twin of the expression.

The tokens of a description are those of its terms, one by one, behind a `front` of two tokens or
none: the minus and the digits of a negative constant whose plus is left out (`Expr.Opens`).
-/

namespace Tabletop

/-! ## Rows of terms as rows of tokens -/

namespace SignedTerm

/-- The negative constants of a row of terms. -/
def negatives (ts : List SignedTerm) : List SignedTerm := ts.filter fun t => t.term.IsNegative

theorem negatives_cons_of_isNegative {t : SignedTerm} (h : t.term.IsNegative)
    (ts : List SignedTerm) : negatives (t :: ts) = t :: negatives ts :=
  List.filter_cons_of_pos (decide_eq_true h)

theorem negatives_cons_of_not_isNegative {t : SignedTerm} (h : ¬t.term.IsNegative)
    (ts : List SignedTerm) : negatives (t :: ts) = negatives ts :=
  List.filter_cons_of_neg (Bool.not_eq_true _ ▸ decide_eq_false h)

theorem scan_text (t : SignedTerm) :
    Token.scan t.text = .sign t.sign :: Token.scan t.term.text :=
  Token.scan_glyph t.sign t.term.text

/-- Rows of terms are scanned one behind the other. -/
theorem scan_flatMap_text_append (ts us : List SignedTerm) :
    Token.scan ((ts ++ us).flatMap text) =
      Token.scan (ts.flatMap text) ++ Token.scan (us.flatMap text) := by
  rw [List.flatMap_append, Token.scan_append (startsSigned_flatMap_text us)]

/-- A term is two tokens, and one more if it is a negative constant. -/
theorem length_scan_flatMap_text (ts : List SignedTerm) :
    (Token.scan (ts.flatMap text)).length = 2 * ts.length + (negatives ts).length := by
  rw [scan_flatMap_text]
  induction ts with
  | nil => rfl
  | cons t ts ih =>
    rw [List.flatMap_cons, List.length_append, ih, t.term.scan_text]
    by_cases h : t.term.IsNegative
    · rw [negatives_cons_of_isNegative h, if_pos h]
      simp only [List.length_cons, List.length_nil]
      omega
    · rw [negatives_cons_of_not_isNegative h, if_neg h]
      simp only [List.length_cons, List.length_nil]
      omega

/-- The last token of a row of terms is the word of the last term. -/
theorem getLast?_scan_flatMap_text {ts : List SignedTerm} {last : SignedTerm}
    (h : ts.getLast? = some last) :
    (Token.scan (ts.flatMap text)).getLast? = some (.word last.term.bare) := by
  obtain ⟨before, rfl⟩ := List.getLast?_eq_some_iff.mp h
  rw [scan_flatMap_text_append, List.flatMap_singleton, scan_text, last.term.scan_text]
  by_cases hneg : last.term.IsNegative
  · rw [if_pos hneg]
    simp
  · rw [if_neg hneg]
    simp

/-! ## Pairs in a row -/

theorem Paired.append {tokens more : List Token} {ts us : List SignedTerm} (h : Paired tokens ts)
    (hmore : Paired more us) : Paired (tokens ++ more) (ts ++ us) := by
  induction h with
  | nil => exact hmore
  | cons hr _ ih => exact .cons hr ih

theorem Paired.length_eq {tokens : List Token} {ts : List SignedTerm} (h : Paired tokens ts) :
    tokens.length = 2 * ts.length := by
  induction h with
  | nil => rfl
  | cons _ _ ih =>
    rw [List.length_cons, List.length_cons, List.length_cons, ih]
    omega

/-- Tokens that are read in pairs are read in pairs whatever stands behind them. -/
theorem Paired.fits {tokens : List Token} {ts : List SignedTerm} (h : Paired tokens ts)
    (more : List Token) : ∀ j < ts.length, Expr.Fits (tokens ++ more) j := by
  induction h with
  | nil => exact fun j hj => absurd hj (Nat.not_lt_zero j)
  | @cons s cs t rest ts hr _ ih =>
    intro j hj
    cases j with
    | zero => exact ⟨s, .word cs, rfl, rfl, t, hr⟩
    | succ j => exact ih j (Nat.lt_of_succ_lt_succ hj)

end SignedTerm

namespace Expr

/-- Behind pairs that are read, two signs are complained about. -/
theorem complaint_behind_paired {tokens more : List Token} {ts : List SignedTerm}
    (h : SignedTerm.Paired tokens ts) {s s' : Sign}
    (heven : (tokens ++ .sign s :: .sign s' :: more).length % 2 = 0) :
    Complaint (tokens ++ .sign s :: .sign s' :: more) [2 * ts.length, 2 * ts.length + 1]
      (.cannotFollow (Token.sign s).name (Token.sign s').name) := by
  refine .secondSign heven (h.fits _) ?_ ?_
  · rw [← h.length_eq, List.getElem?_append_right (Nat.le_refl _), Nat.sub_self]
    rfl
  · rw [← h.length_eq, List.getElem?_append_right (Nat.le_add_right _ 1),
      Nat.add_sub_cancel_left]
    rfl

/-! ## The tokens of a description -/

/-- A description has no blanks and no capitals, so it is scanned as it stands. -/
theorem ofText_text (e : Expr) : Token.ofText e.text = Token.scan e.text := by
  have hself := Token.condensed_eq_self e.isMark_text
  rw [Token.ofText_eq_scan, Token.spelled_eq_condensed (.inr (by rw [hself]; exact e.isMark_text)),
    hself]

/-- The negative constants whose minus stands behind a sign: all of them, but for one at the front
that is added, since its plus is left out. -/
def strays (e : Expr) : List SignedTerm :=
  SignedTerm.negatives <|
    match e.terms with
    | ⟨.plus, _⟩ :: rest => rest
    | ts => ts

/-- A row of terms is written as the tokens `front`, and then as the row of `rest` with every sign
written out. -/
inductive Opens : List SignedTerm → List Token → List SignedTerm → Prop where
  -- the minus of the constant stands where its sign is left out
  | folded {v : Int64} {rest : List SignedTerm} :
    v.toInt < 0 →
      Opens (⟨.plus, .constant v⟩ :: rest) [.sign .minus, .word (Term.constant v).bare] rest
  -- the reader puts back the plus that is left out
  | written {ts : List SignedTerm} :
    (∀ t rest, ts = ⟨.plus, t⟩ :: rest → ¬t.IsNegative) → Opens ts [] ts

theorem exists_opens (ts : List SignedTerm) : ∃ front rest, Opens ts front rest := by
  match ts with
  | [] => exact ⟨[], [], .written nofun⟩
  | ⟨.minus, t⟩ :: rest => exact ⟨[], _, .written nofun⟩
  | ⟨.plus, .dice d⟩ :: rest =>
    refine ⟨[], _, .written fun t rest' h => ?_⟩
    cases h
    exact not_false
  | ⟨.plus, .constant v⟩ :: rest =>
    by_cases hv : v.toInt < 0
    · exact ⟨_, rest, .folded hv⟩
    · refine ⟨[], _, .written fun t rest' h => ?_⟩
      cases h
      exact hv

/-- Every number but the lowest one has an opposite. -/
theorem exists_opposite {v : Int64} (h : v ≠ Int64.minValue) : ∃ c : Int64, c.toInt = -v.toInt := by
  have hne : v.toInt ≠ Int64.minValue.toInt := fun heq => h (Int64.toInt_inj.mp heq)
  have hmin : Int64.minValue.toInt = -2 ^ 63 := by decide
  have hle := Int64.le_toInt v
  have hlt := Int64.toInt_lt v
  exact ⟨Int64.ofInt (-v.toInt), Checked.toInt_ofInt_of_inRange ⟨by omega, by omega⟩⟩

namespace Opens

variable {e : Expr} {front : List Token} {rest : List SignedTerm}

theorem strays_eq (h : Opens e.terms front rest) : e.strays = SignedTerm.negatives rest := by
  obtain ⟨ts⟩ := e
  cases h with
  | folded hv => rfl
  | written hplus =>
    match ts, hplus with
    | [], _ => rfl
    | ⟨.minus, t⟩ :: rest, _ => rfl
    | ⟨.plus, t⟩ :: rest, hplus =>
      have ht : ¬t.IsNegative := hplus t rest rfl
      rw [SignedTerm.negatives_cons_of_not_isNegative ht]
      rfl

theorem row_eq (h : Opens e.terms front rest) :
    row e.description = front ++ Token.scan (rest.flatMap SignedTerm.text) := by
  rw [row, description, String.toList_ofList, ofText_text]
  obtain ⟨ts⟩ := e
  cases h with
  | @folded v rest hv =>
    have hneg : (Term.constant v).IsNegative := hv
    show signedFront (Token.scan ((Term.constant v).text ++ rest.flatMap SignedTerm.text)) = _
    rw [Token.scan_append (SignedTerm.startsSigned_flatMap_text rest), Term.scan_text, if_pos hneg]
    rfl
  | written hplus =>
    rcases ts with _ | ⟨⟨_ | _, t⟩, rest⟩
    · rfl
    · have ht : ¬t.IsNegative := hplus t rest rfl
      rw [SignedTerm.scan_flatMap_text, List.flatMap_cons, ← SignedTerm.scan_flatMap_text]
      show signedFront (Token.scan (t.text ++ rest.flatMap SignedTerm.text)) = _
      rw [Token.scan_append (SignedTerm.startsSigned_flatMap_text rest), t.scan_text, if_neg ht]
      rfl
    · exact signedFront_scan (SignedTerm.startsSigned_flatMap_text (⟨.minus, t⟩ :: rest))

theorem length_row (h : Opens e.terms front rest) :
    (row e.description).length % 2 = e.strays.length % 2 := by
  rw [h.row_eq, h.strays_eq, List.length_append, SignedTerm.length_scan_flatMap_text]
  obtain ⟨ts⟩ := e
  cases h with
  | folded _ =>
    simp only [List.length_cons, List.length_nil]
    omega
  | written _ =>
    simp only [List.length_nil]
    omega

/-- A front whose number has an opposite is read. -/
theorem exists_paired (h : Opens e.terms front rest)
    (hlow : e.terms.head? ≠ some ⟨.plus, .constant Int64.minValue⟩) :
    ∃ us, SignedTerm.Paired front us := by
  obtain ⟨ts⟩ := e
  cases h with
  | written _ => exact ⟨[], .nil⟩
  | @folded v rest hv =>
    obtain ⟨c, hc⟩ := exists_opposite (v := v) fun heq => hlow (by rw [heq]; rfl)
    have hlt := Int64.toInt_lt c
    have hnotated := Term.Notated.constant (Numeral.denotes_ofNat v.toInt.natAbs) (by omega)
    have hread := (Term.read_word_eq_ok_iff hnotated.ofChar?_eq_none).2 hnotated
    exact ⟨_, .cons hread .nil⟩

/-- Where there are strays, there are terms behind the front, and the last token is the word of the
last one. -/
theorem getLast?_row (h : Opens e.terms front rest) (hodd : e.strays.length % 2 = 1) :
    ∃ last, e.terms.getLast? = some last ∧
      (row e.description).getLast? = some (.word last.term.bare) := by
  have hne : rest ≠ [] := by
    intro hnil
    rw [h.strays_eq, hnil] at hodd
    cases hodd
  have hlast := List.getLast?_eq_some_getLast hne
  have hterms : e.terms.getLast? = some (rest.getLast hne) := by
    obtain ⟨ts⟩ := e
    cases h with
    | folded _ => rw [← hlast, List.getLast?_cons_of_ne_nil hne]
    | written _ => exact hlast
  refine ⟨_, hterms, ?_⟩
  rw [h.row_eq, List.getLast?_append, SignedTerm.getLast?_scan_flatMap_text hlast]
  rfl

end Opens

/-! ## Reading back -/

/-- An odd number of strays leaves the last word without a partner. -/
theorem read_description_of_odd {e : Expr} (hodd : e.strays.length % 2 = 1) :
    ∃ last, e.terms.getLast? = some last ∧
      read e.description = .error (.cannotEnd (String.ofList last.term.bare)) := by
  obtain ⟨front, rest, hopens⟩ := exists_opens e.terms
  obtain ⟨last, hlast, hrow⟩ := hopens.getLast?_row hodd
  have hlength : (row e.description).length % 2 = 1 := hopens.length_row.trans hodd
  exact ⟨last, hlast, read_eq_error_iff.2 ⟨_, .dangling hlength hrow⟩⟩

/-- The lowest number has no opposite, so its digits are no constant without their minus. -/
theorem not_isTerm_bare_minValue : ¬(Token.word (Term.constant Int64.minValue).bare).IsTerm := by
  intro ⟨t, ht⟩
  have hread : Term.read (Term.constant Int64.minValue).bare = .error .noDelimiter := by decide
  rw [hread] at ht
  cases ht

/-- At the front, the lowest number is taken for a constant that is subtracted. -/
theorem read_description_of_lowest {e : Expr} (heven : e.strays.length % 2 = 0)
    (hlow : e.terms.head? = some ⟨.plus, .constant Int64.minValue⟩) :
    read e.description = .error (.notValid "9223372036854775808") := by
  obtain ⟨rest, hterms⟩ := List.head?_eq_some_iff.mp hlow
  have hopens : Opens e.terms [.sign .minus, .word (Term.constant Int64.minValue).bare] rest := by
    rw [hterms]
    exact .folded (by decide)
  have hlength : (row e.description).length % 2 = 0 := hopens.length_row.trans heven
  have hfirst : (row e.description)[2 * 0]? = some (.sign .minus) := by
    rw [hopens.row_eq]
    rfl
  have hsecond : (row e.description)[2 * 0 + 1]? =
      some (.word (Term.constant Int64.minValue).bare) := by
    rw [hopens.row_eq]
    rfl
  exact read_eq_error_iff.2
    ⟨_, .noTerm hlength (fun j hj => absurd hj (Nat.not_lt_zero j)) hfirst hsecond
      not_isTerm_bare_minValue⟩

/-- Otherwise nothing is wrong in front of the first stray, and there two signs meet. -/
theorem read_description_of_stray {e : Expr} (heven : e.strays.length % 2 = 0)
    (hlow : e.terms.head? ≠ some ⟨.plus, .constant Int64.minValue⟩) {t : SignedTerm}
    (ht : e.strays.head? = some t) :
    read e.description = .error (.cannotFollow (Token.sign t.sign).name "-") := by
  obtain ⟨front, rest, hopens⟩ := exists_opens e.terms
  obtain ⟨us, hfront⟩ := hopens.exists_paired hlow
  obtain ⟨later, hstrays⟩ := List.head?_eq_some_iff.mp ht
  rw [hopens.strays_eq] at hstrays
  obtain ⟨before, after, rfl, hbefore, hneg, -⟩ := List.filter_eq_cons_iff.mp hstrays
  have hneg : t.term.IsNegative := of_decide_eq_true hneg
  have hbefore : ∀ u ∈ before, ¬u.term.IsNegative := by simpa using hbefore
  have hpaired := hfront.append (SignedTerm.paired_of_row (SignedTerm.row_text hbefore))
  have hrow : row e.description =
      (front ++ Token.scan (before.flatMap SignedTerm.text)) ++ .sign t.sign :: .sign .minus ::
        (.word t.term.bare :: Token.scan (after.flatMap SignedTerm.text)) := by
    rw [hopens.row_eq, SignedTerm.scan_flatMap_text_append, List.append_assoc,
      SignedTerm.scan_flatMap_text (t :: after), List.flatMap_cons, t.term.scan_text, if_pos hneg,
      ← SignedTerm.scan_flatMap_text]
    rfl
  have hlength : (row e.description).length % 2 = 0 := hopens.length_row.trans heven
  rw [hrow] at hlength
  exact read_eq_error_iff.2 ⟨_, hrow ▸ complaint_behind_paired hpaired hlength⟩

/-- Without strays, the only minus of a constant is read as its sign. -/
theorem read_description_of_no_strays {e : Expr} (h : ∃ t ∈ e.terms, t.term.IsNegative)
    (hlow : e.terms.head? ≠ some ⟨.plus, .constant Int64.minValue⟩) (hnone : e.strays = []) :
    ∃ e', Twins e e' ∧ read e.description = .ok e' := by
  obtain ⟨front, rest, hopens⟩ := exists_opens e.terms
  have hrest : ∀ u ∈ rest, ¬u.term.IsNegative := by
    have hfilter := hopens.strays_eq.symm.trans hnone
    simpa using List.filter_eq_nil_iff.mp hfilter
  obtain ⟨ts⟩ := e
  cases hopens with
  | written _ =>
    obtain ⟨t, ht, hneg⟩ := h
    exact absurd hneg (hrest t ht)
  | @folded v rest hv =>
    obtain ⟨c, hc⟩ := exists_opposite (v := v) fun heq => hlow (by rw [heq]; rfl)
    have hpos : 0 < c.toInt := by omega
    have htwins : Twins ⟨⟨.plus, .constant v⟩ :: rest⟩ ⟨⟨.minus, .constant c⟩ :: rest⟩ :=
      ⟨c, v, rest, hpos, by omega, rfl, rfl⟩
    have hnonneg : ∀ u ∈ (⟨.minus, .constant c⟩ :: rest : List SignedTerm), ¬u.term.IsNegative :=
      List.forall_mem_cons.mpr ⟨Int.not_lt.mpr (Int.le_of_lt hpos), hrest⟩
    refine ⟨_, htwins, read_description_eq_ok_of_notated ?_⟩
    rw [htwins.text_eq]
    exact notated_text hnonneg

/-- **What becomes of a description with negative constants.** It depends on how many of them stand
behind a sign that is written out. Are they odd in number, the last term is complained about, under
its digits. Are they even, then a description that starts with the lowest number is refused for its
digits; else, if there are any, the first of them is refused for its minus behind its sign; and else
the expression is read back as its twin: it subtracts the opposite of the constant that was added,
is described and rolled alike, and takes the same dice. -/
theorem read_description_of_isNegative {e : Expr} (h : ∃ t ∈ e.terms, t.term.IsNegative) :
    (e.strays.length % 2 = 1 →
      ∃ last, e.terms.getLast? = some last ∧
        read e.description = .error (.cannotEnd (String.ofList last.term.bare))) ∧
    (e.strays.length % 2 = 0 → e.terms.head? = some ⟨.plus, .constant Int64.minValue⟩ →
      read e.description = .error (.notValid "9223372036854775808")) ∧
    (e.strays.length % 2 = 0 → e.terms.head? ≠ some ⟨.plus, .constant Int64.minValue⟩ →
      (∀ t, e.strays.head? = some t →
        read e.description = .error (.cannotFollow (Token.sign t.sign).name "-")) ∧
      (e.strays = [] →
        ∃ e', Twins e e' ∧ read e.description = .ok e' ∧ e'.description = e.description ∧
          e'.draws = e.draws ∧
            ∀ {σ : Type} (r : Roller σ) (s : σ), e'.roll r s = e.roll r s)) := by
  refine ⟨read_description_of_odd, read_description_of_lowest, fun heven hlow => ⟨?_, ?_⟩⟩
  · exact fun t ht => read_description_of_stray heven hlow ht
  · intro hnone
    obtain ⟨e', htwins, hread⟩ := read_description_of_no_strays h hlow hnone
    refine ⟨e', htwins, hread, congrArg String.ofList htwins.text_eq.symm, htwins.draws_eq.symm, ?_⟩
    exact fun r s => by rw [htwins.roll_eq r]

/-- Two strays leave the tokens of `-3+-4-1d6--5` even in number, so the first one is complained
about. -/
theorem read_description_two_strays :
    let e : Expr := ⟨[⟨.plus, .constant (-3)⟩, ⟨.plus, .constant (-4)⟩, ⟨.minus, .dice .d6⟩,
      ⟨.minus, .constant (-5)⟩]⟩
    (∃ t ∈ e.terms, t.term.IsNegative) ∧
      e.strays = [⟨.plus, .constant (-4)⟩, ⟨.minus, .constant (-5)⟩] ∧
        read e.description = .error (.cannotFollow "+" "-") := by
  intro e
  have hneg : ∃ t ∈ e.terms, t.term.IsNegative := ⟨⟨.plus, .constant (-3)⟩, by decide, by decide⟩
  obtain ⟨-, -, heven⟩ := read_description_of_isNegative hneg
  obtain ⟨hstray, -⟩ := heven (by decide) (by decide)
  exact ⟨hneg, by decide, hstray ⟨.plus, .constant (-4)⟩ (by decide)⟩

end Expr

end Tabletop
