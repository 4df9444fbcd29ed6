import Tabletop.Text.Quoted

/-!
# Reading quoted text

A reader for quoted text, one character at a time (`unescape`): a backslash with a letter behind it is a
short escape, a backslash with `u` and braces is a character by its number, and every other character
is itself, but for the quote, which is where the text ends. It reads a character back from how it was
written, whatever stands behind it,

> `unescape_escaped`,

so no character is written as the beginning of how another one is, and none like the quote. Character by
character this makes quoted text tell where it ends:

> `quoted_append_inj`: two texts that go on from a quoted text and are equal quote the same text and go on
> alike.

It does not matter for this which characters have a shape of their own, only that the quote and the
backslash never stand for themselves.
-/

namespace Tabletop.Text

/-- The value of a hexadecimal digit. -/
def hexDigit (c : Char) : Nat :=
  if c.isDigit then c.toNat - '0'.toNat else 10 + (c.toNat - 'a'.toNat)

/-- The number that hexadecimal digits denote. -/
def hexNumber (digits : List Char) : Nat := digits.foldl (fun n c => 16 * n + hexDigit c) 0

/-- The character that a short escape stands for. -/
def shortened : Char → Char
  | '0' => '\x00'
  | 't' => '\t'
  | 'r' => '\r'
  | 'n' => '\n'
  | c => c

/-- Reads one character of a quoted text, and what stands behind it. The closing quote is none. -/
def unescape : List Char → Option (Char × List Char)
  | [] => none
  | '\"' :: _ => none
  | '\\' :: 'u' :: '\x7b' :: rest =>
    some (Char.ofNat (hexNumber (rest.takeWhile (· != '\x7d'))),
      (rest.dropWhile (· != '\x7d')).drop 1)
  | '\\' :: c :: rest => some (shortened c, rest)
  | c :: rest => some (c, rest)

/-! ## Characters by their number -/

/-- A number is written in digits. -/
theorem exists_digitChar_of_mem_toDigits {b n : Nat} (hb : 1 < b) {c : Char}
    (hc : c ∈ Nat.toDigits b n) : ∃ d, c = Nat.digitChar d := by
  induction n using Nat.strongRecOn with
  | ind n ih =>
    by_cases hlt : n < b
    · rw [Nat.toDigits_of_lt_base hlt, List.mem_singleton] at hc
      exact ⟨n, hc⟩
    · rw [Nat.toDigits_of_base_le hb (Nat.le_of_not_lt hlt)] at hc
      rcases List.mem_append.mp hc with hfront | hlast
      · exact ih (n / b) (Nat.div_lt_self (by omega) hb) hfront
      · exact ⟨n % b, List.mem_singleton.mp hlast⟩

theorem hexDigit_digitChar : ∀ {d : Nat}, d < 16 → hexDigit d.digitChar = d := by decide

/-- The digits of a number denote it. -/
theorem hexNumber_toDigits (n : Nat) : hexNumber (Nat.toDigits 16 n) = n := by
  induction n using Nat.strongRecOn with
  | ind n ih =>
    by_cases hlt : n < 16
    · rw [Nat.toDigits_of_lt_base hlt]
      exact (Nat.zero_add _).trans (hexDigit_digitChar hlt)
    · have hfront := ih (n / 16) (by omega)
      have hlast := hexDigit_digitChar (Nat.mod_lt n (show 0 < 16 by omega))
      unfold hexNumber at hfront ⊢
      rw [Nat.toDigits_of_base_le (by omega) (Nat.le_of_not_lt hlt), List.foldl_append, hfront,
        List.foldl_cons, List.foldl_nil, hlast]
      exact Nat.div_add_mod n 16

/-- The closing brace is no digit, so it ends the number. -/
theorem unescape_numbered (c : Char) (rest : List Char) :
    unescape (numbered c ++ rest) = some (c, rest) := by
  have hdigits : ∀ x ∈ Nat.toDigits 16 c.toNat, (x != '\x7d') = true := by
    intro x hx
    obtain ⟨d, rfl⟩ := exists_digitChar_of_mem_toDigits (by omega) hx
    rw [bne_iff_ne]
    exact Nat.digitChar_ne _ rfl
  have hsplit : numbered c ++ rest =
      '\\' :: 'u' :: '\x7b' :: (Nat.toDigits 16 c.toNat ++ '\x7d' :: rest) := by
    simp [numbered]
  rw [hsplit]
  show some (_, _) = _
  rw [List.takeWhile_append_of_pos hdigits, List.dropWhile_append_of_pos hdigits]
  show some (Char.ofNat (hexNumber (_ ++ [])), rest) = _
  rw [List.append_nil, hexNumber_toDigits, Char.ofNat_toNat]

/-! ## Characters -/

/-- A character that needs no escape is read as itself. -/
theorem unescape_cons {c : Char} (hquote : c ≠ '\"') (hslash : c ≠ '\\') (rest : List Char) :
    unescape (c :: rest) = some (c, rest) := by
  unfold unescape
  split <;> simp_all

/-- A character is read back from how it is written. -/
theorem unescape_escaped (c : Char) (rest : List Char) :
    unescape (escaped c ++ rest) = some (c, rest) := by
  unfold escaped
  split
  case h_7 hquote hslash =>
    split
    · exact unescape_cons hquote hslash rest
    · exact unescape_numbered c rest
  -- the short escapes are looked up
  all_goals rfl

/-- Two texts that begin with written characters and are equal begin with the same one. -/
theorem escaped_append_inj {c d : Char} {u v : List Char} (h : escaped c ++ u = escaped d ++ v) :
    c = d ∧ u = v := by
  have hread := congrArg unescape h
  rw [unescape_escaped, unescape_escaped] at hread
  exact Prod.mk.inj (Option.some.inj hread)

/-- No character is written with a quote in front. -/
theorem escaped_append_ne (c : Char) (u v : List Char) : escaped c ++ u ≠ '\"' :: v := by
  intro h
  have hread := congrArg unescape h
  rw [unescape_escaped] at hread
  cases hread

/-! ## Quoted texts -/

/-- Up to the closing quote the characters can be told one by one. -/
theorem flatMap_escaped_append_inj {xs ys u v : List Char}
    (h : xs.flatMap escaped ++ '\"' :: u = ys.flatMap escaped ++ '\"' :: v) : xs = ys ∧ u = v := by
  induction xs generalizing ys with
  | nil =>
    cases ys with
    | nil => exact ⟨rfl, (List.cons.inj h).2⟩
    | cons y ys =>
      rw [List.flatMap_cons, List.append_assoc] at h
      exact absurd h.symm (escaped_append_ne y _ u)
  | cons x xs ih =>
    rw [List.flatMap_cons, List.append_assoc] at h
    cases ys with
    | nil => exact absurd h (escaped_append_ne x _ v)
    | cons y ys =>
      rw [List.flatMap_cons, List.append_assoc] at h
      obtain ⟨hfirst, hrest⟩ := escaped_append_inj h
      obtain ⟨htexts, hbehind⟩ := ih hrest
      exact ⟨by rw [hfirst, htexts], hbehind⟩

/-- A quoted text tells where it ends, and what it quotes. -/
theorem quoted_append_inj {s t u v : String} (h : quoted s ++ u = quoted t ++ v) :
    s = t ∧ u = v := by
  have hlist := congrArg String.toList h
  unfold quoted at hlist
  simp only [String.toList_append, String.toList_ofList, List.cons_append, List.append_assoc,
    List.nil_append, List.cons.injEq, true_and] at hlist
  obtain ⟨htext, hbehind⟩ := flatMap_escaped_append_inj hlist
  exact ⟨String.toList_inj.mp htext, String.toList_inj.mp hbehind⟩

/-- No two texts are quoted alike. -/
theorem quoted_injective {s t : String} (h : quoted s = quoted t) : s = t := by
  have happend := congrArg (· ++ "") h
  exact (quoted_append_inj happend).1

end Tabletop.Text
