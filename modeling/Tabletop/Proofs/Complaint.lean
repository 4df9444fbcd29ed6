import Tabletop.Proofs.Notation

/-!
# What a complaint is about

`Proofs.Notation` says which texts are read; this module says what the others are refused for. The
reader takes the tokens of a text, with a plus in front if they start with a word, as one row
(`Expr.row`), and a complaint about a row is told by places in it (`Expr.Complaint`): the last place
of an odd row, whatever else is wrong with it, or else the first pair that is no sign and term, of
which it names both tokens if the second is a sign, and the second alone if it is a word.

> `read_eq_error_iff_complaint`: a text is refused with `e` exactly when `e` is the complaint about
> its row.

There is no rule for a pair whose first token is a word, although the reader is ready for one. A row
starts with a sign, and words never meet in it (`Token.Ready`). So behind a pair that is read, whose
second token is a word, the next pair starts with a sign again (`Ready.isSign_of_fits`), and a pair
that is not read is the last one looked at.
-/

namespace Tabletop

/-! ## Rows of tokens -/

namespace Token

/-- A token that is read as a term. -/
def IsTerm : Token → Prop
  | sign _ => False
  | word cs => ∃ t, Term.read cs = .ok t

/-- A row that starts with a sign, and in which words never meet. -/
structure Ready (row : List Token) : Prop where
  alternates : Alternates row
  first : ∀ t, row[0]? = some t → t.isSign = true

theorem Alternates.isSign_or_isSign {tokens : List Token} {k : Nat} {a b : Token}
    (h : Alternates tokens) (ha : tokens[k]? = some a) (hb : tokens[k + 1]? = some b) :
    a.isSign = true ∨ b.isSign = true := by
  induction k generalizing tokens with
  | zero =>
    match tokens, ha, hb, h with
    | first :: second :: rest, ha, hb, h =>
      cases ha
      cases hb
      exact h.1
  | succ k ih =>
    match tokens, ha, hb, h with
    | first :: rest, ha, hb, h => exact ih h.tail ha hb

end Token

namespace Expr

/-- The tokens of a text as they are taken in pairs. -/
def row (text : String) : List Token := signedFront (Token.ofText text.toList)

/-- The `i`-th pair of a row is a sign and a term. -/
def Fits (row : List Token) (i : Nat) : Prop :=
  ∃ s t, row[2 * i]? = some (.sign s) ∧ row[2 * i + 1]? = some t ∧ t.IsTerm

/-- The complaint about a row, and the places of the tokens that it names. -/
inductive Complaint (row : List Token) : List Nat → ReadError → Prop where
  -- the parity goes first: of an odd row no pair is looked at
  | dangling {last : Token} :
    row.length % 2 = 1 → row.getLast? = some last →
      Complaint row [row.length - 1] (.cannotEnd last.name)
  | secondSign {i : Nat} {s s' : Sign} :
    row.length % 2 = 0 → (∀ j < i, Fits row j) →
      row[2 * i]? = some (.sign s) → row[2 * i + 1]? = some (.sign s') →
        Complaint row [2 * i, 2 * i + 1] (.cannotFollow (Token.sign s).name (Token.sign s').name)
  | noTerm {i : Nat} {s : Sign} {cs : List Char} :
    row.length % 2 = 0 → (∀ j < i, Fits row j) →
      row[2 * i]? = some (.sign s) → row[2 * i + 1]? = some (.word cs) → ¬(Token.word cs).IsTerm →
        Complaint row [2 * i + 1] (.notValid (Token.word cs).name)

theorem row_cases (text : String) :
    row text = Token.ofText text.toList ∧ (∀ t, (row text)[0]? = some t → t.isSign = true) ∨
      ∃ cs rest, Token.ofText text.toList = .word cs :: rest ∧
        row text = .sign .plus :: .word cs :: rest := by
  unfold row
  cases Token.ofText text.toList with
  | nil => exact .inl ⟨rfl, fun t ht => nomatch ht⟩
  | cons first rest =>
    cases first with
    | sign s =>
      refine .inl ⟨rfl, fun t ht => ?_⟩
      cases ht
      rfl
    | word cs => exact .inr ⟨cs, rest, rfl, rfl⟩

theorem ready_row (text : String) : Token.Ready (row text) := by
  have halt : Token.Alternates (Token.ofText text.toList) := Token.scan_alternates _
  rcases row_cases text with ⟨hrow, hfirst⟩ | ⟨cs, rest, htokens, hrow⟩
  · exact ⟨hrow ▸ halt, hfirst⟩
  · rw [htokens] at halt
    rw [hrow]
    refine ⟨halt.cons_sign .plus, fun t ht => ?_⟩
    cases ht
    rfl

end Expr

/-- Behind pairs that are signs and terms, a pair starts with a sign. -/
theorem Token.Ready.isSign_of_fits {row : List Token} (h : Token.Ready row) {i : Nat}
    (hfits : ∀ j < i, Expr.Fits row j) {a : Token} (ha : row[2 * i]? = some a) :
    a.isSign = true := by
  cases i with
  | zero => exact h.first a ha
  | succ i =>
    obtain ⟨s, t, -, ht, hterm⟩ := hfits i (Nat.lt_succ_self i)
    rcases h.alternates.isSign_or_isSign ht ha with hsign | hsign
    · -- a sign is no term
      cases t with
      | sign s => exact hterm.elim
      | word cs => cases hsign
    · exact hsign

/-! ## The first pair that is not read -/

/-- Items are read one by one up to the first that is refused. -/
theorem mapM_eq_error_iff {α β ε : Type} {f : α → Except ε β} {e : ε} :
    ∀ {xs : List α}, xs.mapM f = .error e ↔
      ∃ (i : Nat) (x : α), xs[i]? = some x ∧
        (∀ (j : Nat) (y : α), j < i → xs[j]? = some y → ∃ b, f y = .ok b) ∧ f x = .error e := by
  intro xs
  induction xs with
  | nil => exact ⟨fun h => (nomatch h), fun ⟨i, x, hx, _⟩ => nomatch hx⟩
  | cons x xs ih =>
    rw [List.mapM_cons]
    cases hx : f x with
    | error e' =>
      show Except.error e' = .error e ↔ _
      refine ⟨fun h => ?_, fun ⟨i, y, hi, hbefore, hy⟩ => ?_⟩
      · cases h
        exact ⟨0, x, rfl, fun j y hj => absurd hj (Nat.not_lt_zero j), hx⟩
      cases i with
      | zero =>
        cases hi
        rw [hx] at hy
        cases hy
        rfl
      | succ i =>
        obtain ⟨b, hb⟩ := hbefore 0 x (Nat.succ_pos i) rfl
        rw [hx] at hb
        cases hb
    | ok b =>
      have hrest : (xs.mapM f >>= fun bs => pure (b :: bs)) = .error e ↔ xs.mapM f = .error e := by
        cases xs.mapM f with
        | error e' => exact Iff.rfl
        | ok bs => exact ⟨fun h => (nomatch h), fun h => (nomatch h)⟩
      refine Iff.trans hrest (ih.trans ⟨?_, ?_⟩)
      · intro ⟨i, y, hi, hbefore, hy⟩
        refine ⟨i + 1, y, hi, fun j z hj hz => ?_, hy⟩
        cases j with
        | zero =>
          cases hz
          exact ⟨b, hx⟩
        | succ j => exact hbefore j z (Nat.lt_of_succ_lt_succ hj) hz
      · intro ⟨i, y, hi, hbefore, hy⟩
        cases i with
        | zero =>
          cases hi
          rw [hx] at hy
          cases hy
        | succ i =>
          exact ⟨i, y, hi, fun j z hj hz => hbefore (j + 1) z (Nat.succ_lt_succ hj) hz, hy⟩

namespace SignedTerm

theorem exists_ofPair_eq_ok_iff {a b : Token} :
    (∃ t, ofPair #v[a, b] = .ok t) ↔ ∃ s, a = .sign s ∧ b.IsTerm := by
  refine ⟨fun ⟨t, h⟩ => ?_, fun ⟨s, ha, hb⟩ => ?_⟩
  · obtain ⟨cs, rfl, rfl, hr⟩ := ofPair_eq_ok_iff.1 h
    exact ⟨t.sign, rfl, t.term, hr⟩
  · cases b with
    | sign s' => exact hb.elim
    | word cs =>
      obtain ⟨t, hr⟩ := hb
      exact ⟨⟨s, t⟩, ofPair_eq_ok_iff.2 ⟨cs, ha, rfl, hr⟩⟩

/-- A pair that starts with a sign is refused for a second sign, or for a word that is no term. -/
theorem ofPair_sign_eq_error_iff {s : Sign} {b : Token} {e : ReadError} :
    ofPair #v[.sign s, b] = .error e ↔
      (∃ s', b = .sign s' ∧ e = .cannotFollow (Token.sign s).name (Token.sign s').name) ∨
        ∃ cs, b = .word cs ∧ ¬(Token.word cs).IsTerm ∧ e = .notValid (Token.word cs).name := by
  cases b with
  | sign s' =>
    show Except.error (ReadError.cannotFollow _ _) = _ ↔ _
    rw [Except.error.injEq]
    refine ⟨fun h => .inl ⟨s', rfl, h.symm⟩, fun h => ?_⟩
    rcases h with ⟨s'', hs, he⟩ | ⟨cs, hcs, -⟩
    · cases hs
      exact he.symm
    · cases hcs
  | word cs =>
    rw [ofPair_sign_word]
    cases hr : Term.read cs with
    | ok t =>
      refine ⟨fun h => (nomatch h), fun h => ?_⟩
      rcases h with ⟨s', hs, -⟩ | ⟨cs', hcs, hterm, -⟩
      · cases hs
      · cases hcs
        exact absurd ⟨t, hr⟩ hterm
    | error fault =>
      have hterm : ¬(Token.word cs).IsTerm := by
        intro ⟨t, ht⟩
        rw [hr] at ht
        cases ht
      refine ⟨fun h => ?_, fun h => ?_⟩
      · cases h
        exact .inr ⟨cs, rfl, hterm, rfl⟩
      · rcases h with ⟨s', hs, -⟩ | ⟨cs', hcs, -, rfl⟩
        · cases hs
        · cases hcs
          rfl

end SignedTerm

namespace Expr

theorem even_of_exact {tokens : List Token} {pairs : List (Vector Token 2)}
    (h : Groups.exact 2 tokens = .ok pairs) : tokens.length % 2 = 0 := by
  obtain ⟨-, rfl⟩ := Groups.exact_eq_ok_iff.1 h
  rw [Groups.length_flatten_toList, Nat.mul_mod_left]

/-- Tokens are refused for their number, or for the first pair that is not read. -/
theorem ofPairs_eq_error_iff {tokens : List Token} {e : ReadError} :
    ofPairs tokens = .error e ↔
      (tokens.length % 2 = 1 ∧ ∃ last, tokens.getLast? = some last ∧ e = .cannotEnd last.name) ∨
        ∃ pairs, Groups.exact 2 tokens = .ok pairs ∧ pairs.mapM SignedTerm.ofPair = .error e := by
  unfold ofPairs
  cases hp : Groups.exact 2 tokens with
  | ok pairs =>
    have heven := even_of_exact hp
    have hodd : ¬(tokens.length % 2 = 1 ∧
        ∃ last, tokens.getLast? = some last ∧ e = .cannotEnd last.name) := by
      intro ⟨hodd, _⟩
      omega
    rw [or_iff_right hodd]
    show Except.map Expr.mk (pairs.mapM SignedTerm.ofPair) = .error e ↔ _
    have hmap : Except.map Expr.mk (pairs.mapM SignedTerm.ofPair) = .error e ↔
        pairs.mapM SignedTerm.ofPair = .error e := by
      cases pairs.mapM SignedTerm.ofPair with
      | error e' => simp [Except.map]
      | ok ts => simp [Except.map]
    rw [hmap]
    refine ⟨fun h => ⟨pairs, rfl, h⟩, fun ⟨pairs', hpairs, h⟩ => ?_⟩
    cases hpairs
    exact h
  | error uneven =>
    obtain ⟨hodd, -⟩ := Groups.exact_eq_error_iff.1 hp
    have hodd : tokens.length % 2 = 1 := by omega
    -- an odd row is not empty
    have hne : tokens ≠ [] := by
      rintro rfl
      cases hodd
    have hlast := List.getLast?_eq_some_getLast hne
    show Except.error (ReadError.cannotEnd (tokens.getLast?.elim "" Token.name)) = _ ↔ _
    rw [hlast, Except.error.injEq]
    refine ⟨fun h => .inl ⟨hodd, _, rfl, h.symm⟩, fun h => ?_⟩
    rcases h with ⟨-, last, hl, he⟩ | ⟨pairs, hpairs, -⟩
    · cases hl
      exact he.symm
    · cases hpairs

/-- The places of a group are those of a pair in the row. -/
theorem getElem?_of_exact {tokens : List Token} {pairs : List (Vector Token 2)}
    (h : Groups.exact 2 tokens = .ok pairs) {i : Nat} {a b : Token} (hi : pairs[i]? = some #v[a, b]) :
    tokens[2 * i]? = some a ∧ tokens[2 * i + 1]? = some b := by
  obtain ⟨-, rfl⟩ := Groups.exact_eq_ok_iff.1 h
  have h0 := Groups.getElem?_flatten_toList (show 0 < 2 by decide) pairs i
  have h1 := Groups.getElem?_flatten_toList (show 1 < 2 by decide) pairs i
  rw [hi] at h0 h1
  exact ⟨h0, h1⟩

theorem exists_ofPair_of_fits {tokens : List Token} {pairs : List (Vector Token 2)}
    (h : Groups.exact 2 tokens = .ok pairs) {i : Nat} {pair : Vector Token 2}
    (hi : pairs[i]? = some pair) :
    (∃ t, SignedTerm.ofPair pair = .ok t) ↔ Fits tokens i := by
  obtain ⟨a, b, rfl⟩ := SignedTerm.exists_eq_pair pair
  obtain ⟨ha, hb⟩ := getElem?_of_exact h hi
  rw [SignedTerm.exists_ofPair_eq_ok_iff]
  refine ⟨fun ⟨s, hs, hterm⟩ => ⟨s, b, by rw [ha, hs], hb, hterm⟩, fun ⟨s, t, hs, ht, hterm⟩ => ?_⟩
  rw [ha] at hs
  rw [hb] at ht
  cases hs
  cases ht
  exact ⟨s, rfl, hterm⟩

/-- What is complained about at a pair behind pairs that are read is what the reader says of it. -/
theorem ofPairs_eq_error_of_fits {row : List Token} (heven : row.length % 2 = 0) {i : Nat}
    (hfits : ∀ j < i, Fits row j) {a b : Token} (ha : row[2 * i]? = some a)
    (hb : row[2 * i + 1]? = some b) {e : ReadError} (he : SignedTerm.ofPair #v[a, b] = .error e) :
    ofPairs row = .error e := by
  cases hp : Groups.exact 2 row with
  | error uneven =>
    obtain ⟨hodd, -⟩ := Groups.exact_eq_error_iff.1 hp
    exact absurd ⟨by decide, heven⟩ hodd
  | ok pairs =>
    refine ofPairs_eq_error_iff.2 (.inr ⟨pairs, hp, mapM_eq_error_iff.2 ⟨i, #v[a, b], ?_, ?_, he⟩⟩)
    · obtain ⟨-, hflat⟩ := Groups.exact_eq_ok_iff.1 hp
      have h0 := Groups.getElem?_flatten_toList (show 0 < 2 by decide) pairs i
      rw [hflat, Nat.add_zero, ha] at h0
      obtain ⟨pair, hpair, -⟩ := Option.map_eq_some_iff.1 h0.symm
      obtain ⟨a', b', rfl⟩ := SignedTerm.exists_eq_pair pair
      obtain ⟨ha', hb'⟩ := getElem?_of_exact hp hpair
      rw [ha] at ha'
      rw [hb] at hb'
      cases ha'
      cases hb'
      exact hpair
    · intro j pair hj hpair
      exact (exists_ofPair_of_fits hp hpair).2 (hfits j hj)

/-- A row that is ready to be read is refused with the complaint about it. -/
theorem ofPairs_eq_error_iff_complaint {row : List Token} (h : Token.Ready row) {e : ReadError} :
    ofPairs row = .error e ↔ ∃ places, Complaint row places e := by
  refine ⟨fun he => ?_, fun ⟨places, hc⟩ => ?_⟩
  · rcases ofPairs_eq_error_iff.1 he with ⟨hodd, last, hlast, rfl⟩ | ⟨pairs, hp, hm⟩
    · exact ⟨_, .dangling hodd hlast⟩
    · obtain ⟨i, pair, hi, hbefore, hpair⟩ := mapM_eq_error_iff.1 hm
      obtain ⟨a, b, rfl⟩ := SignedTerm.exists_eq_pair pair
      obtain ⟨ha, hb⟩ := getElem?_of_exact hp hi
      have heven := even_of_exact hp
      have hilt := (List.getElem?_eq_some_iff.1 hi).1
      have hfits : ∀ j < i, Fits row j := by
        intro j hj
        have hj' := List.getElem?_eq_getElem (Nat.lt_trans hj hilt)
        exact (exists_ofPair_of_fits hp hj').1 (hbefore j _ hj hj')
      -- so the first token of the pair is a sign, and only the second can be at fault
      have hsign := h.isSign_of_fits hfits ha
      cases a with
      | word cs => cases hsign
      | sign s =>
        rcases SignedTerm.ofPair_sign_eq_error_iff.1 hpair with ⟨s', rfl, rfl⟩ | ⟨cs, rfl, hterm, rfl⟩
        · exact ⟨_, .secondSign heven hfits ha hb⟩
        · exact ⟨_, .noTerm heven hfits ha hb hterm⟩
  · cases hc with
    | dangling hodd hlast => exact ofPairs_eq_error_iff.2 (.inl ⟨hodd, _, hlast, rfl⟩)
    | secondSign heven hfits ha hb => exact ofPairs_eq_error_of_fits heven hfits ha hb rfl
    | @noTerm i s cs heven hfits ha hb hterm =>
      have he : SignedTerm.ofPair #v[.sign s, .word cs] = .error (.notValid (Token.word cs).name) :=
        SignedTerm.ofPair_sign_eq_error_iff.2 (.inr ⟨cs, rfl, hterm, rfl⟩)
      exact ofPairs_eq_error_of_fits heven hfits ha hb he

/-! ## The tokens that are named -/

theorem Complaint.tokens_eq {row : List Token} {places : List Nat} {e : ReadError}
    (h : Complaint row places e) :
    e.tokens.map some = places.map fun p => row[p]?.map Token.name := by
  cases h with
  | dangling _ hlast =>
    rw [List.getLast?_eq_getElem?] at hlast
    simp [ReadError.tokens, hlast]
  | secondSign _ _ ha hb => simp [ReadError.tokens, ha, hb]
  | noTerm _ _ _ hb _ => simp [ReadError.tokens, hb]

/-- A plus in front of a word is not complained about. -/
theorem Complaint.pos_of_mem {cs : List Char} {rest : List Token} {places : List Nat} {e : ReadError}
    (h : Complaint (.sign .plus :: .word cs :: rest) places e) : ∀ p ∈ places, 0 < p := by
  cases h with
  | dangling _ _ =>
    intro p hp
    rw [List.mem_singleton] at hp
    rw [hp, List.length_cons, List.length_cons]
    omega
  | @secondSign i s s' _ _ _ hb =>
    -- the token behind the plus is a word, so this is a later pair
    have hi : 0 < i := by
      cases i with
      | zero => cases hb
      | succ i => exact Nat.succ_pos i
    intro p hp
    rcases List.mem_cons.mp hp with rfl | hp
    · omega
    · rw [List.mem_singleton] at hp
      omega
  | noTerm _ _ _ _ _ =>
    intro p hp
    rw [List.mem_singleton] at hp
    omega

theorem wellFormed_of_mem_row (text : String) : ∀ t ∈ row text, t.WellFormed := by
  have hw : ∀ t ∈ Token.ofText text.toList, t.WellFormed := Token.wellFormed_of_mem_scan _
  rcases row_cases text with ⟨hrow, -⟩ | ⟨cs, rest, htokens, hrow⟩
  · rw [hrow]
    exact hw
  · rw [htokens] at hw
    rw [hrow]
    exact List.forall_mem_cons.mpr ⟨trivial, hw⟩

/-- No word of a text is written like a sign. -/
theorem name_ne_of_mem_row {text : String} {cs : List Char} (h : .word cs ∈ row text) (s : Sign) :
    (Token.word cs).name ≠ (Token.sign s).name := by
  intro heq
  obtain ⟨-, hs⟩ := wellFormed_of_mem_row text _ h
  have hcs : cs = [s.glyph] := String.ofList_inj.mp heq
  have hnone := hs s.glyph (by rw [hcs]; exact List.mem_cons_self)
  rw [Sign.ofChar?_glyph] at hnone
  cases hnone

theorem read_eq_error_iff {text : String} {e : ReadError} :
    read text = .error e ↔ ∃ places, Complaint (row text) places e :=
  ofPairs_eq_error_iff_complaint (ready_row text)

/-- **What a refused text is refused for.** A text is refused with the complaint about its row, and
with no other: about the last token of an odd row, or else about the first pair that is no sign and
term. No pair that is looked at starts with anything but a sign. The tokens named stand at the places
of the complaint, which are places of the text and never that of a plus put in front; two of them are
both signs, and one that is called not valid is none. -/
theorem read_eq_error_iff_complaint (text : String) :
    (∀ e, read text = .error e ↔ ∃ places, Complaint (row text) places e) ∧
    (∀ pairs, Groups.exact 2 (row text) = .ok pairs →
      ∀ (i : Nat) (a b : Token), pairs[i]? = some #v[a, b] →
        (∀ (j : Nat) (earlier : Vector Token 2), j < i → pairs[j]? = some earlier →
          ∃ t, SignedTerm.ofPair earlier = .ok t) → a.isSign = true) ∧
    (∃ front, row text = front ++ Token.ofText text.toList ∧
      ∀ places e, Complaint (row text) places e →
        (e.tokens.map some = places.map fun p => (row text)[p]?.map Token.name) ∧
          ∀ p ∈ places, front.length ≤ p) ∧
    (∀ earlier later, read text = .error (.cannotFollow earlier later) →
      ∃ s s' : Sign, earlier = (Token.sign s).name ∧ later = (Token.sign s').name) ∧
    ∀ token, read text = .error (.notValid token) → ∀ s : Sign, token ≠ (Token.sign s).name := by
  refine ⟨fun e => read_eq_error_iff, ?_, ?_, ?_, ?_⟩
  · intro pairs hp i a b hi hbefore
    obtain ⟨ha, -⟩ := getElem?_of_exact hp hi
    refine (ready_row text).isSign_of_fits (fun j hj => ?_) ha
    have hilt := (List.getElem?_eq_some_iff.1 hi).1
    have hj' := List.getElem?_eq_getElem (Nat.lt_trans hj hilt)
    exact (exists_ofPair_of_fits hp hj').1 (hbefore j _ hj hj')
  · rcases row_cases text with ⟨hrow, -⟩ | ⟨cs, rest, htokens, hrow⟩
    · exact ⟨[], hrow, fun places e hc => ⟨hc.tokens_eq, fun p _ => Nat.zero_le p⟩⟩
    · refine ⟨[.sign .plus], by rw [hrow, htokens]; rfl, fun places e hc => ⟨hc.tokens_eq, ?_⟩⟩
      rw [hrow] at hc
      exact hc.pos_of_mem
  · intro earlier later h
    obtain ⟨places, hc⟩ := read_eq_error_iff.1 h
    cases hc with
    | secondSign => exact ⟨_, _, rfl, rfl⟩
  · intro token h s
    obtain ⟨places, hc⟩ := read_eq_error_iff.1 h
    cases hc with
    | noTerm _ _ _ hb _ => exact name_ne_of_mem_row (List.mem_of_getElem? hb) s

end Expr

end Tabletop
