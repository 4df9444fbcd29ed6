import Tabletop.Groups

/-!
# Grouping, from the groups' side

`Groups.exact` succeeds with the groups that put the list together again, and with no others:

> `exact_eq_ok_iff`: grouping gives `groups` exactly when the size is not zero and `groups`, one
> after the other, are the list.

That there is only one such way to cut (`eq_of_flatten_eq`) holds because every group has the same,
known size.
-/

namespace Tabletop.Groups

variable {α : Type}

/-- A list put together from groups of one size is as long as they are together. -/
theorem length_flatten_toList {size : Nat} (groups : List (Vector α size)) :
    (groups.map Vector.toList).flatten.length = groups.length * size := by
  induction groups with
  | nil => simp
  | cons g groups ih =>
    rw [List.map_cons, List.flatten_cons, List.length_append, ih, Vector.length_toList,
      List.length_cons, Nat.succ_mul]
    omega

/-- Groups of one size can be told from the list they make up. -/
theorem eq_of_flatten_eq {size : Nat} (hpos : 0 < size) :
    ∀ {gs hs : List (Vector α size)},
      (gs.map Vector.toList).flatten = (hs.map Vector.toList).flatten → gs = hs := by
  intro gs
  induction gs with
  | nil =>
    intro hs h
    have hlen := congrArg List.length h
    rw [length_flatten_toList, length_flatten_toList] at hlen
    rcases Nat.mul_eq_zero.mp (hlen.symm.trans (Nat.zero_mul _)) with h0 | h0
    · exact (List.eq_nil_of_length_eq_zero h0).symm
    · omega
  | cons g gs ih =>
    intro hs h
    cases hs with
    | nil =>
      have hlen := congrArg List.length h
      rw [length_flatten_toList, length_flatten_toList, List.length_cons, Nat.succ_mul] at hlen
      simp at hlen
      omega
    | cons g' hs =>
      simp only [List.map_cons, List.flatten_cons] at h
      -- the first groups are equally long, so the border between them and the rest is the same
      obtain ⟨hg, hrest⟩ := List.append_inj h (by simp)
      rw [Vector.toList_inj.mp hg, ih hrest]

/-- What stands at place `k` of the `i`-th group stands in the list behind the groups before it. -/
theorem getElem?_flatten_toList {size k : Nat} (hk : k < size) :
    ∀ (groups : List (Vector α size)) (i : Nat),
      (groups.map Vector.toList).flatten[size * i + k]? = groups[i]?.map fun g => g[k] := by
  intro groups
  induction groups with
  | nil => intro i; simp
  | cons g groups ih =>
    intro i
    rw [List.map_cons, List.flatten_cons]
    cases i with
    | zero =>
      have hlt : size * 0 + k < g.toList.length := by rw [Vector.length_toList]; omega
      rw [List.getElem?_append_left hlt, List.getElem?_eq_getElem hlt]
      simp
    | succ i =>
      have hle : g.toList.length ≤ size * (i + 1) + k := by
        rw [Vector.length_toList, Nat.mul_succ]
        omega
      have hsub : size * (i + 1) + k - g.toList.length = size * i + k := by
        rw [Vector.length_toList, Nat.mul_succ]
        omega
      rw [List.getElem?_append_right hle, hsub, ih, List.getElem?_cons_succ]

/-- Grouping succeeds with the groups that make up the list. -/
theorem exact_eq_ok_iff {size : Nat} {xs : List α} {groups : List (Vector α size)} :
    exact size xs = .ok groups ↔ 0 < size ∧ (groups.map Vector.toList).flatten = xs := by
  unfold exact
  split
  next h =>
    have hcut := flatten_cut size (xs.length / size) xs
      (Nat.div_mul_cancel (Nat.dvd_of_mod_eq_zero h.2)).symm
    rw [Except.ok.injEq]
    refine ⟨fun e => ?_, fun e => ?_⟩
    · rw [← e]
      exact ⟨h.1, hcut⟩
    · obtain ⟨hpos, hflat⟩ := e
      exact eq_of_flatten_eq hpos (hcut.trans hflat.symm)
  next h =>
    refine ⟨fun e => ?_, fun e => ?_⟩
    · cases e
    · obtain ⟨hpos, hflat⟩ := e
      rw [← hflat, length_flatten_toList, Nat.mul_mod_left] at h
      exact absurd ⟨hpos, rfl⟩ h

end Tabletop.Groups
