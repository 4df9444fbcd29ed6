import Mathlib.Logic.Equiv.Fin.Basic
import Tabletop.Proofs.Complaint

/-!
# Grouping is a partition

Cutting a list into groups of one size puts the element at place `p` into group `p / size` at place
`p % size`, and so takes every element once. `Proofs.Groups` says that the groups put the list together
again; with their one size this tells how many there are (`length_of_exact`) and where each element
went:

> `exact_getElem?`: place `k` of group `i` is place `size * i + k` of the list, and
> `existsUnique_place`: every place of the list is one of these, in one way.

The reader of notation relies on it in two ways. It takes the two tokens of a pair without looking
whether they are there, and when the tokens do not pair up it names the last of them, for which it
needs that there is one (`exists_getLast?_of_exact`).
-/

namespace Tabletop

namespace Groups

variable {α : Type}

/-- Grouping succeeds for a size that is not zero and divides the length. -/
theorem exists_exact_iff {size : Nat} {xs : List α} :
    (∃ groups, exact size xs = .ok groups) ↔ 0 < size ∧ size ∣ xs.length := by
  rw [Nat.dvd_iff_mod_eq_zero]
  unfold exact
  split
  next h => exact iff_of_true ⟨_, rfl⟩ h
  next h =>
    refine iff_of_false ?_ h
    rintro ⟨groups, hgroups⟩
    cases hgroups

/-- There are as many groups as the size goes into the length. -/
theorem length_of_exact {size : Nat} {xs : List α} {groups : List (Vector α size)}
    (h : exact size xs = .ok groups) : groups.length = xs.length / size := by
  obtain ⟨hpos, rfl⟩ := exact_eq_ok_iff.1 h
  rw [length_flatten_toList, Nat.mul_div_cancel _ hpos]

/-- What stands at a place of a group stands behind the groups before it in the list. -/
theorem exact_getElem? {size : Nat} {xs : List α} {groups : List (Vector α size)}
    (h : exact size xs = .ok groups) (i : Fin groups.length) (k : Fin size) :
    xs[size * i.val + k.val]? = some groups[i][k] := by
  obtain ⟨-, rfl⟩ := exact_eq_ok_iff.1 h
  rw [getElem?_flatten_toList k.isLt, List.getElem?_eq_getElem i.isLt]
  rfl

/-- Every place of the list is one place of one group. -/
theorem existsUnique_place {size : Nat} {xs : List α} {groups : List (Vector α size)}
    (h : exact size xs = .ok groups) {p : Nat} (hp : p < xs.length) :
    ∃! place : Fin groups.length × Fin size, size * place.1.val + place.2.val = p := by
  obtain ⟨-, rfl⟩ := exact_eq_ok_iff.1 h
  rw [length_flatten_toList] at hp
  have hval : ∀ place : Fin groups.length × Fin size,
      finProdFinEquiv place = ⟨p, hp⟩ ↔ size * place.1.val + place.2.val = p := by
    intro place
    rw [Fin.ext_iff, finProdFinEquiv_apply_val, Nat.add_comm]
  obtain ⟨place, hplace, hunique⟩ := finProdFinEquiv.bijective.existsUnique ⟨p, hp⟩
  refine ⟨place, (hval place).1 hplace, fun other hother => ?_⟩
  exact hunique other ((hval other).2 hother)

end Groups

namespace Expr

/-- Tokens that are grouped are read pair by pair. -/
theorem ofPairs_of_exact {row : List Token} {pairs : List (Vector Token 2)}
    (h : Groups.exact 2 row = .ok pairs) :
    ofPairs row = (pairs.mapM SignedTerm.ofPair).map Expr.mk := by
  unfold ofPairs
  rw [h]

/-- Tokens that cannot be grouped have a last one, and are refused for it. -/
theorem exists_getLast?_of_exact {row : List Token} {e : Groups.Uneven}
    (h : Groups.exact 2 row = .error e) :
    ∃ last, row.getLast? = some last ∧ ofPairs row = .error (.cannotEnd last.name) := by
  obtain ⟨hodd, -⟩ := Groups.exact_eq_error_iff.1 h
  have hodd : row.length % 2 = 1 := by omega
  have hne : row ≠ [] := by
    rintro rfl
    cases hodd
  have hlast := List.getLast?_eq_some_getLast hne
  exact ⟨_, hlast, ofPairs_eq_error_iff.2 (.inl ⟨hodd, _, hlast, rfl⟩)⟩

end Expr

/-- **Grouping is a partition or a refusal.** A list is grouped exactly when the size is not zero and
divides its length. Then there are as many groups as that goes, all of the size, and one after the
other they are the list; else the refusal says what the length and the size were.

So the tokens of any row, with the plus that may be put in front, are read in pairs of two tokens, where
every place of the row is that of one token in one pair, the first of it for an even place and the
second for an odd one. Or they are refused for a last token, which is there. -/
theorem Groups.exact_partitions_or_refuses {α : Type} (size : Nat) (xs : List α)
    (tokens : List Token) :
    ((∃ groups, exact size xs = .ok groups) ↔ 0 < size ∧ size ∣ xs.length) ∧
    (∀ groups, exact size xs = .ok groups →
      groups.length = xs.length / size ∧ (∀ g ∈ groups, g.toList.length = size) ∧
        (groups.map Vector.toList).flatten = xs) ∧
    (∀ e, exact size xs = .error e ↔ ¬(0 < size ∧ size ∣ xs.length) ∧ e = ⟨xs.length, size⟩) ∧
    (∀ pairs, exact 2 (Expr.signedFront tokens) = .ok pairs →
      Expr.ofTokens tokens = (pairs.mapM SignedTerm.ofPair).map Expr.mk ∧
      (∀ (i : Fin pairs.length) (k : Fin 2),
        (Expr.signedFront tokens)[2 * i.val + k.val]? = some pairs[i][k]) ∧
      ∀ p < (Expr.signedFront tokens).length,
        ∃! place : Fin pairs.length × Fin 2, 2 * place.1.val + place.2.val = p) ∧
    ∀ e, exact 2 (Expr.signedFront tokens) = .error e →
      ∃ last, (Expr.signedFront tokens).getLast? = some last ∧
        Expr.ofTokens tokens = .error (.cannotEnd last.name) := by
  refine ⟨exists_exact_iff, fun groups h => ?_, fun e => ?_, fun pairs h => ?_,
    fun e h => Expr.exists_getLast?_of_exact h⟩
  · exact ⟨length_of_exact h, fun g _ => g.length_toList, (exact_eq_ok_iff.1 h).2⟩
  · rw [Nat.dvd_iff_mod_eq_zero]
    exact exact_eq_error_iff
  · exact ⟨Expr.ofPairs_of_exact h, exact_getElem? h, fun p hp => existsUnique_place h hp⟩

end Tabletop
