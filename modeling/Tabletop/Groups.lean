import Tabletop.Numeral

/-!
# Cutting a list into groups of one size

A list is cut into groups of a given size with nothing left over, or not at all. That each group has
the size asked for is part of its type, so whoever reads a pair can take its first and its second
element without looking.
-/

namespace Tabletop.Groups

variable {α : Type}

/-- A list whose length is no multiple of the group size. -/
structure Uneven where
  length : Nat
  size : Nat
  deriving DecidableEq

/-- The wording of the complaint. -/
def Uneven.message (e : Uneven) : String :=
  "cannot group " ++ Numeral.decimal e.length ++ " items into groups of "
    ++ Numeral.decimal e.size

/-- The first `size` elements of a list that has them. -/
def leading (size : Nat) (xs : List α) (h : size ≤ xs.length) : Vector α size :=
  ⟨(xs.take size).toArray, by simpa using Nat.min_eq_left h⟩

/-- Cuts a list that holds `count` groups, one after the other. -/
def cut (size : Nat) : (count : Nat) → (xs : List α) → xs.length = count * size →
    List (Vector α size)
  | 0, _, _ => []
  | count + 1, xs, h =>
    have hx : xs.length = count * size + size := by rw [h, Nat.succ_mul]
    leading size xs (by omega) ::
      cut size count (xs.drop size) (by rw [List.length_drop]; omega)

/-- Cuts a list into groups of `size` elements each. Groups of no elements are refused, whatever the
list. -/
def exact (size : Nat) (xs : List α) : Except Uneven (List (Vector α size)) :=
  if h : 0 < size ∧ xs.length % size = 0 then
    .ok (cut size (xs.length / size) xs
      (Nat.div_mul_cancel (Nat.dvd_of_mod_eq_zero h.2)).symm)
  else .error ⟨xs.length, size⟩

theorem toList_leading (size : Nat) (xs : List α) (h : size ≤ xs.length) :
    (leading size xs h).toList = xs.take size := by
  simp [leading, Vector.toList]

/-- Nothing is lost by cutting, and the order is kept. -/
theorem flatten_cut (size count : Nat) (xs : List α) (h : xs.length = count * size) :
    ((cut size count xs h).map Vector.toList).flatten = xs := by
  induction count generalizing xs with
  | zero =>
    have hnil : xs = [] := List.eq_nil_of_length_eq_zero (by rw [h, Nat.zero_mul])
    simp [cut, hnil]
  | succ count ih => simp [cut, toList_leading, ih]

/-- Grouping fails exactly for the size zero and for a length that the size does not divide, and
says which length and size these were. -/
theorem exact_eq_error_iff {size : Nat} {xs : List α} {e : Uneven} :
    exact size xs = .error e ↔ ¬(0 < size ∧ xs.length % size = 0) ∧ e = ⟨xs.length, size⟩ := by
  unfold exact
  split
  next h => simp [h]
  next h => simp [h, eq_comm]

end Tabletop.Groups
