import Mathlib.Data.List.Forall2
import Mathlib.Data.List.GetD
import Mathlib.Data.List.Perm.Basic
import Mathlib.Data.Set.Function
import Tabletop.Random.Selection

/-!
# Ordered selections

Both methods of choosing positions make one selection for every row of draws within their bounds, and
every selection for one of them. Neither proof counts; each takes a selection apart in the order in
which the method puts it together.

*In place*, a selection is taken apart from the front. The first draw takes one entry out of the row
and leaves a row of the others (`exchange_perm`), and as no entry stands in the row twice, the entry
tells the draw. The rest is a selection of what is left (`selection_cons_iff`), for any row without
repetitions.

With *insertion*, the last draw is taken off. What tells it is the bound: no earlier draw can be as
high, so if the bound stands in the selection at all, the last draw put it there, and the number drawn
is the one behind it (`insert_injective`). If not, the number drawn stands at the end. Without what the
last draw inserted, there is left a selection of the positions below the bound
(`selection_insert_iff`).

> `Method.positions_bijOn`: for either method, rows of draws and ordered selections correspond.
-/

namespace Tabletop.Random

open List (Forall₂)

/-- As many different entries of a row as asked for, in any order. -/
structure Selection (row : List Nat) (amount : Nat) (places : List Nat) : Prop where
  length_eq : places.length = amount
  nodup : places.Nodup
  mem_row : ∀ p ∈ places, p ∈ row

/-- Each of the draws is within its bounds. -/
def Within (bounds : List (Nat × Nat)) (draws : List Nat) : Prop :=
  Forall₂ (fun b draw => b.1 ≤ draw ∧ draw ≤ b.2) bounds draws

theorem selection_zero_iff {row places : List Nat} : Selection row 0 places ↔ places = [] := by
  refine ⟨fun h => List.length_eq_zero_iff.1 h.length_eq, ?_⟩
  rintro rfl
  exact ⟨rfl, List.nodup_nil, fun p hp => absurd hp List.not_mem_nil⟩

/-- With the first one taken from the row, the others are a selection of what is left. -/
theorem selection_cons_iff {row left : List Nat} {p : Nat} (hnodup : row.Nodup)
    (hperm : (p :: left).Perm row) {amount : Nat} {places : List Nat} :
    Selection row (amount + 1) (p :: places) ↔ Selection left amount places := by
  have hpleft : p ∉ left := (List.nodup_cons.1 (hperm.nodup_iff.2 hnodup)).1
  refine ⟨fun ⟨hlength, hplaces, hmem⟩ => ?_, fun ⟨hlength, hplaces, hmem⟩ => ?_⟩
  · obtain ⟨hp, hplaces⟩ := List.nodup_cons.1 hplaces
    refine ⟨Nat.succ.inj hlength, hplaces, fun q hq => ?_⟩
    rcases List.mem_cons.1 (hperm.mem_iff.2 (hmem q (List.mem_cons_of_mem p hq))) with rfl | hleft
    · exact absurd hq hp
    · exact hleft
  · have hp : p ∉ places := fun hp => hpleft (hmem p hp)
    refine ⟨congrArg (· + 1) hlength, List.nodup_cons.2 ⟨hp, hplaces⟩, fun q hq => ?_⟩
    refine hperm.mem_iff.1 ?_
    rcases List.mem_cons.1 hq with rfl | hq
    · exact List.mem_cons_self
    · exact List.mem_cons_of_mem p (hmem q hq)

theorem Selection.perm {row places places' : List Nat} {amount : Nat}
    (h : Selection row amount places) (hperm : places.Perm places') :
    Selection row amount places' where
  length_eq := hperm.length_eq.symm.trans h.length_eq
  nodup := hperm.nodup_iff.1 h.nodup
  mem_row := fun p hp => h.mem_row p (hperm.mem_iff.2 hp)

/-- The last draw is within the last bounds, and those before it are within theirs. -/
theorem within_concat_iff {bounds : List (Nat × Nat)} {b : Nat × Nat} {draws : List Nat} :
    Within (bounds ++ [b]) draws ↔
      ∃ first draw, Within bounds first ∧ b.1 ≤ draw ∧ draw ≤ b.2 ∧ draws = first ++ [draw] := by
  refine ⟨fun h => ?_, ?_⟩
  · induction bounds generalizing draws with
    | nil =>
      obtain ⟨draw, draws, ⟨hlo, hhi⟩, hnone, rfl⟩ := List.forall₂_cons_left_iff.1 h
      obtain rfl := List.forall₂_nil_left_iff.1 hnone
      exact ⟨[], draw, .nil, hlo, hhi, rfl⟩
    | cons c bounds ih =>
      obtain ⟨d, draws, hd, hdraws, rfl⟩ := List.forall₂_cons_left_iff.1 h
      obtain ⟨first, draw, hfirst, hlo, hhi, rfl⟩ := ih hdraws
      exact ⟨d :: first, draw, .cons hd hfirst, hlo, hhi, rfl⟩
  · rintro ⟨first, draw, hfirst, hlo, hhi, rfl⟩
    exact List.rel_append hfirst (.cons ⟨hlo, hhi⟩ .nil)

/-- With nothing asked for there is one selection, and one row of draws for it. -/
theorem bijOn_nil {row : List Nat} {f : List Nat → List Nat} (h : f [] = []) :
    Set.BijOn f {draws | Within [] draws} {places | Selection row 0 places} := by
  have hnil : {draws | Within [] draws} = {[]} := Set.ext fun draws => List.forall₂_nil_left_iff
  have hnone : {places | Selection row 0 places} = {[]} := Set.ext fun places => selection_zero_iff
  rw [hnil, hnone, Set.bijOn_singleton]
  exact h

namespace Method

/-! ## In place -/

/-- What is taken from a row for its first place, and the row that is left behind it. -/
def exchange (place x : Nat) (row : List Nat) (draw : Nat) : Nat × List Nat :=
  if draw ≤ place then (x, row)
  else (row.getD (draw - place - 1) x, row.set (draw - place - 1) x)

theorem trade_cons (place x : Nat) (row : List Nat) (draw : Nat) (draws : List Nat) :
    trade place (x :: row) (draw :: draws) =
      (exchange place x row draw).1 :: trade (place + 1) (exchange place x row draw).2 draws := by
  unfold exchange
  rw [trade]
  split <;> rfl

section

variable {place x : Nat} {row : List Nat} {draw : Nat}

/-- The entry at the place drawn is taken. -/
theorem getElem?_eq_exchange (hlo : place ≤ draw) (hhi : draw ≤ place + row.length) :
    (x :: row)[draw - place]? = some (exchange place x row draw).1 := by
  unfold exchange
  split
  next h =>
    have hfront : draw - place = 0 := by omega
    rw [hfront]
    rfl
  next h =>
    have hbehind : draw - place = draw - place - 1 + 1 := by omega
    have hlt : draw - place - 1 < row.length := by omega
    rw [hbehind, List.getElem?_cons_succ, List.getElem?_eq_getElem hlt, Nat.add_sub_cancel,
      List.getD_eq_getElem _ _ hlt]

/-- The other entries are left. -/
theorem exchange_perm (hhi : draw ≤ place + row.length) :
    ((exchange place x row draw).1 :: (exchange place x row draw).2).Perm (x :: row) := by
  unfold exchange
  split
  next h => exact List.Perm.refl _
  next h =>
    have hlt : draw - place - 1 < row.length := by omega
    obtain ⟨i, hi⟩ : ∃ i, i = draw - place - 1 := ⟨_, rfl⟩
    rw [← hi] at hlt ⊢
    rw [List.getD_eq_getElem _ _ hlt]
    have hset := (List.set_perm_cons_eraseIdx hlt x).cons row[i]
    have herase := (List.getElem_cons_eraseIdx_perm hlt).cons x
    exact (hset.trans (.swap ..)).trans herase

theorem length_exchange (hhi : draw ≤ place + row.length) :
    (exchange place x row draw).2.length = row.length :=
  Nat.succ.inj (exchange_perm (x := x) hhi).length_eq

/-- No entry stands in the row twice, so the one taken tells the draw. -/
theorem exchange_injective (hnodup : (x :: row).Nodup) {draw' : Nat} (hlo : place ≤ draw)
    (hhi : draw ≤ place + row.length) (hlo' : place ≤ draw') (hhi' : draw' ≤ place + row.length)
    (h : (exchange place x row draw).1 = (exchange place x row draw').1) : draw = draw' := by
  have hsame : (x :: row)[draw - place]? = (x :: row)[draw' - place]? := by
    rw [getElem?_eq_exchange hlo hhi, getElem?_eq_exchange hlo' hhi', h]
  have hlt : draw - place < (x :: row).length := by
    rw [List.length_cons]
    omega
  have hplace := (List.getElem?_inj hlt hnodup).1 hsame
  omega

/-- Any entry can be taken. -/
theorem exists_exchange_eq (place : Nat) {p : Nat} (hp : p ∈ x :: row) :
    ∃ draw, place ≤ draw ∧ draw ≤ place + row.length ∧ (exchange place x row draw).1 = p := by
  obtain ⟨i, hi, rfl⟩ := List.getElem_of_mem hp
  rw [List.length_cons] at hi
  have hhi : place + i ≤ place + row.length := by omega
  refine ⟨place + i, Nat.le_add_right place i, hhi, ?_⟩
  have htaken := getElem?_eq_exchange (x := x) (Nat.le_add_right place i) hhi
  rw [Nat.add_sub_cancel_left, List.getElem?_eq_getElem hi] at htaken
  exact (Option.some.inj htaken).symm

/-- If the selections of what is left behind any first draw correspond to the later draws, those of the
row correspond to all of them. -/
theorem trade_cons_bijOn (hnodup : (x :: row).Nodup) {amount : Nat} {bounds : List (Nat × Nat)}
    (hrest : ∀ draw, draw ≤ place + row.length →
      Set.BijOn (trade (place + 1) (exchange place x row draw).2) {draws | Within bounds draws}
        {places | Selection (exchange place x row draw).2 amount places}) :
    Set.BijOn (trade place (x :: row)) {draws | Within ((place, place + row.length) :: bounds) draws}
      {places | Selection (x :: row) (amount + 1) places} := by
  refine ⟨?_, ?_, ?_⟩
  · intro draws hdraws
    obtain ⟨draw, draws, ⟨-, hhi⟩, hwithin, rfl⟩ := List.forall₂_cons_left_iff.1 hdraws
    show Selection _ _ _
    rw [trade_cons, selection_cons_iff hnodup (exchange_perm hhi)]
    exact (hrest draw hhi).mapsTo hwithin
  · intro draws hdraws draws' hdraws' htrade
    obtain ⟨draw, draws, ⟨hlo, hhi⟩, hwithin, rfl⟩ := List.forall₂_cons_left_iff.1 hdraws
    obtain ⟨draw', draws', ⟨hlo', hhi'⟩, hwithin', rfl⟩ := List.forall₂_cons_left_iff.1 hdraws'
    rw [trade_cons, trade_cons] at htrade
    obtain ⟨hfirst, hothers⟩ := List.cons.inj htrade
    obtain rfl := exchange_injective hnodup hlo hhi hlo' hhi' hfirst
    rw [(hrest draw hhi).injOn hwithin hwithin' hothers]
  · intro places hplaces
    cases places with
    | nil => exact absurd hplaces.length_eq (Nat.succ_ne_zero amount).symm
    | cons p places =>
      obtain ⟨draw, hlo, hhi, rfl⟩ :=
        exists_exchange_eq place (hplaces.mem_row p List.mem_cons_self)
      have hothers := (selection_cons_iff hnodup (exchange_perm hhi)).1 hplaces
      obtain ⟨draws, hwithin, htrade⟩ := (hrest draw hhi).surjOn hothers
      refine ⟨draw :: draws, .cons ⟨hlo, hhi⟩ hwithin, ?_⟩
      rw [trade_cons, htrade]

end

/-- Trading places for the front of a row without repetitions takes each ordered selection of it for
exactly one row of draws. -/
theorem trade_bijOn :
    ∀ (amount place : Nat) (row : List Nat), row.Nodup → amount ≤ row.length →
      Set.BijOn (trade place row)
        {draws | Within ((List.range' place amount).map fun i => (i, place + row.length - 1)) draws}
        {places | Selection row amount places} := by
  intro amount
  induction amount with
  | zero =>
    intro place row _ _
    have htrade : trade place row [] = [] := by cases row <;> rfl
    exact bijOn_nil htrade
  | succ amount ih =>
    intro place row hnodup hle
    cases row with
    | nil => exact absurd hle (Nat.not_succ_le_zero amount)
    | cons x row =>
      have hlast : place + (x :: row).length - 1 = place + row.length := rfl
      rw [hlast, List.range'_succ, List.map_cons]
      refine trade_cons_bijOn hnodup fun draw hhi => ?_
      -- what is left after the first draw is a row of its own
      have hlength := length_exchange (x := x) hhi
      have hleft : (exchange place x row draw).2.Nodup :=
        ((exchange_perm hhi).nodup_iff.2 hnodup).of_cons
      have hbij := ih (place + 1) (exchange place x row draw).2 hleft (by
        rw [hlength]
        exact Nat.le_of_succ_le_succ hle)
      have hend : place + 1 + (exchange place x row draw).2.length - 1 = place + row.length := by
        omega
      rwa [hend] at hbij

/-! ## Insertion -/

theorem length_insert (bound draw : Nat) (chosen : List Nat) :
    (insert bound draw chosen).length = chosen.length + 1 := by
  induction chosen with
  | nil => rfl
  | cons x chosen ih =>
    rw [insert]
    split
    · rfl
    · rw [List.length_cons, ih, List.length_cons]

/-- What is inserted is the draw, or the bound in its place if the draw is there already. -/
theorem insert_perm (bound draw : Nat) (chosen : List Nat) :
    (insert bound draw chosen).Perm ((if draw ∈ chosen then bound else draw) :: chosen) := by
  induction chosen with
  | nil => exact List.Perm.refl _
  | cons x chosen ih =>
    rw [insert]
    by_cases hx : x = draw
    · rw [if_pos hx, if_pos (hx ▸ List.mem_cons_self)]
    · have hmem : draw ∈ x :: chosen ↔ draw ∈ chosen := by
        rw [List.mem_cons, or_iff_right (Ne.symm hx)]
      rw [if_neg hx, if_congr hmem rfl rfl]
      exact (ih.cons x).trans (.swap ..)

/-- A choice without the bound, and the number drawn, can be told from the outcome. -/
theorem insert_injective {bound : Nat} :
    ∀ {chosen chosen' : List Nat} {draw draw' : Nat}, bound ∉ chosen → bound ∉ chosen' →
      insert bound draw chosen = insert bound draw' chosen' → chosen = chosen' ∧ draw = draw' := by
  intro chosen
  induction chosen with
  | nil =>
    intro chosen' draw draw' _ _ h
    have hlength := congrArg List.length h
    rw [length_insert, length_insert] at hlength
    obtain rfl := List.length_eq_zero_iff.1 (Nat.succ.inj hlength).symm
    exact ⟨rfl, List.head_eq_of_cons_eq h⟩
  | cons x chosen ih =>
    intro chosen' draw draw' hbound hbound' h
    have hlength := congrArg List.length h
    rw [length_insert, length_insert] at hlength
    cases chosen' with
    | nil => cases hlength
    | cons y chosen' =>
      rw [List.mem_cons, not_or] at hbound hbound'
      rw [insert, insert] at h
      -- the bound in front tells that it was inserted there, before the number drawn
      split at h <;> split at h
      next hxd hyd =>
        obtain ⟨rfl, rfl⟩ := List.cons.inj (List.tail_eq_of_cons_eq h)
        exact ⟨rfl, hxd.symm.trans hyd⟩
      next => exact absurd (List.head_eq_of_cons_eq h) hbound'.1
      next => exact absurd (List.head_eq_of_cons_eq h).symm hbound.1
      next =>
        obtain ⟨rfl, hrest⟩ := List.cons.inj h
        obtain ⟨rfl, rfl⟩ := ih hbound.2 hbound'.2 hrest
        exact ⟨rfl, rfl⟩

/-- Every choice without repetitions is the outcome of an insertion. -/
theorem exists_insert_eq (bound : Nat) :
    ∀ {places : List Nat}, places ≠ [] → places.Nodup →
      ∃ chosen draw, bound ∉ chosen ∧ draw ∈ places ∧ insert bound draw chosen = places := by
  intro places
  induction places with
  | nil => exact fun h => absurd rfl h
  | cons x places ih =>
    intro _ hnodup
    obtain ⟨hx, hnodup⟩ := List.nodup_cons.1 hnodup
    cases places with
    | nil => exact ⟨[], x, List.not_mem_nil, List.mem_cons_self, rfl⟩
    | cons y places =>
      by_cases hbound : x = bound
      · refine ⟨y :: places, y, hbound ▸ hx, List.mem_cons_of_mem x List.mem_cons_self, ?_⟩
        rw [insert, if_pos rfl, hbound]
      · obtain ⟨chosen, draw, hchosen, hdraw, hinsert⟩ := ih (List.cons_ne_nil y places) hnodup
        have hne : x ≠ draw := fun h => hx (h ▸ hdraw)
        refine ⟨x :: chosen, draw, List.not_mem_cons_of_ne_of_not_mem (Ne.symm hbound) hchosen,
          List.mem_cons_of_mem x hdraw, ?_⟩
        rw [insert, if_neg hne, hinsert]

theorem insertAll_concat (bound : Nat) (chosen draws : List Nat) (draw : Nat) :
    insertAll bound chosen (draws ++ [draw]) =
      insert (bound + draws.length) draw (insertAll bound chosen draws) := by
  induction draws generalizing bound chosen with
  | nil => rfl
  | cons d draws ih =>
    rw [List.cons_append, insertAll, insertAll, ih, List.length_cons]
    congr 1
    omega

/-- With the bound among the places, an insertion makes one selection out of another. -/
theorem selection_insert_iff {bound amount draw : Nat} {chosen : List Nat} (hbound : bound ∉ chosen) :
    Selection (List.range (bound + 1)) (amount + 1) (insert bound draw chosen) ↔
      Selection (List.range bound) amount chosen ∧ draw ≤ bound := by
  have hperm := insert_perm bound draw chosen
  refine ⟨fun h => ?_, fun ⟨⟨hlength, hnodup, hmem⟩, hdraw⟩ => ?_⟩
  · obtain ⟨hlength, hnodup, hmem⟩ := h.perm hperm
    have hlt : ∀ q ∈ chosen, q < bound := by
      intro q hq
      have hq' := List.mem_range.1 (hmem q (List.mem_cons_of_mem _ hq))
      have hne : q ≠ bound := fun heq => hbound (heq ▸ hq)
      omega
    refine ⟨⟨Nat.succ.inj hlength, (List.nodup_cons.1 hnodup).2,
      fun q hq => List.mem_range.2 (hlt q hq)⟩, ?_⟩
    by_cases hdraw : draw ∈ chosen
    · exact Nat.le_of_lt (hlt draw hdraw)
    · have hfirst := hmem _ List.mem_cons_self
      rw [if_neg hdraw, List.mem_range] at hfirst
      exact Nat.le_of_lt_succ hfirst
  · refine Selection.perm ⟨congrArg (· + 1) hlength, List.nodup_cons.2 ⟨?_, hnodup⟩, fun q hq => ?_⟩
      hperm.symm
    · split
      next => exact hbound
      next hdraw => exact hdraw
    · rw [List.mem_range]
      rcases List.mem_cons.1 hq with rfl | hq
      · split <;> omega
      · exact Nat.lt_succ_of_lt (List.mem_range.1 (hmem q hq))

/-- If the selections of the positions below a bound correspond to the draws made so far, one more draw
up to the bound makes those of the positions up to it. -/
theorem insertAll_concat_bijOn {bound amount : Nat} {bounds : List (Nat × Nat)}
    (hamount : bounds.length = amount)
    (h : Set.BijOn (insertAll bound []) {draws | Within bounds draws}
      {places | Selection (List.range (bound + amount)) amount places}) :
    Set.BijOn (insertAll bound []) {draws | Within (bounds ++ [(0, bound + amount)]) draws}
      {places | Selection (List.range (bound + (amount + 1))) (amount + 1) places} := by
  have hfresh : ∀ {places}, Selection (List.range (bound + amount)) amount places →
      bound + amount ∉ places := fun hplaces hmem =>
    Nat.lt_irrefl _ (List.mem_range.1 (hplaces.mem_row _ hmem))
  have hlength : ∀ {first : List Nat}, Within bounds first → first.length = amount :=
    fun hfirst => (List.Forall₂.length_eq hfirst).symm.trans hamount
  refine ⟨?_, ?_, ?_⟩
  · intro draws hdraws
    obtain ⟨first, draw, hfirst, -, hdraw, rfl⟩ := within_concat_iff.1 hdraws
    have hchosen := h.mapsTo hfirst
    show Selection _ _ _
    rw [insertAll_concat, hlength hfirst, ← Nat.add_assoc, selection_insert_iff (hfresh hchosen)]
    exact ⟨hchosen, hdraw⟩
  · intro draws hdraws draws' hdraws' hinsert
    obtain ⟨first, draw, hfirst, -, -, rfl⟩ := within_concat_iff.1 hdraws
    obtain ⟨first', draw', hfirst', -, -, rfl⟩ := within_concat_iff.1 hdraws'
    rw [insertAll_concat, insertAll_concat, hlength hfirst, hlength hfirst'] at hinsert
    obtain ⟨hchosen, rfl⟩ :=
      insert_injective (hfresh (h.mapsTo hfirst)) (hfresh (h.mapsTo hfirst')) hinsert
    rw [h.injOn hfirst hfirst' hchosen]
  · intro places hplaces
    have hne : places ≠ [] := by
      rintro rfl
      exact Nat.succ_ne_zero amount hplaces.length_eq.symm
    obtain ⟨chosen, draw, hbound, -, rfl⟩ := exists_insert_eq (bound + amount) hne hplaces.nodup
    obtain ⟨hchosen, hdraw⟩ := (selection_insert_iff hbound).1 hplaces
    obtain ⟨first, hfirst, rfl⟩ := h.surjOn hchosen
    refine ⟨first ++ [draw], within_concat_iff.2 ⟨first, draw, hfirst, Nat.zero_le _, hdraw, rfl⟩, ?_⟩
    rw [insertAll_concat, hlength hfirst]

/-- Inserting takes each ordered selection of the positions below the last bound for exactly one row of
draws. -/
theorem insertAll_bijOn (bound : Nat) :
    ∀ amount : Nat, Set.BijOn (insertAll bound [])
      {draws | Within ((List.range amount).map fun i => (0, bound + i)) draws}
      {places | Selection (List.range (bound + amount)) amount places} := by
  intro amount
  induction amount with
  | zero => exact bijOn_nil rfl
  | succ amount ih =>
    rw [List.range_succ, List.map_append]
    exact insertAll_concat_bijOn (by rw [List.length_map, List.length_range]) ih

/-! ## Either method -/

/-- **Draws and ordered selections correspond.** With either method, a row of draws within their bounds
stands for different positions, as many as asked for; different rows of draws stand for different
selections, and every selection in every order is stood for by one. -/
theorem positions_bijOn (m : Method) {length amount : Nat} (h : amount ≤ length) :
    Set.BijOn (fun draws => m.positions length amount draws)
      {draws | Within (m.bounds length amount) draws}
      {places | Selection (List.range length) amount places} := by
  cases m with
  | inPlace =>
    have htrade := trade_bijOn amount 0 (List.range length) List.nodup_range
      (by rwa [List.length_range])
    rw [List.length_range, Nat.zero_add, ← List.range_eq_range'] at htrade
    exact htrade
  | insertion =>
    have hinsert := insertAll_bijOn (length - amount) amount
    rw [Nat.sub_add_cancel h] at hinsert
    exact hinsert

end Method

end Tabletop.Random
