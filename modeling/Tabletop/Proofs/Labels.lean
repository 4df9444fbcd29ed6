import Mathlib.Order.Interval.Finset.Nat
import Tabletop.Table

/-!
# A table as a die with labelled faces

A table can be thought of as one die whose faces bear the choices: the first choice on as many faces
as its weight, the next one on those that follow, and so on (`Table.labels`). The picking loop never
looks at such a die, which can have four thousand million faces; it adds up weights until they reach
the face thrown. What it returns is nevertheless the label of that face:

> `Table.scan_eq_labelAt`: a scan gives the label of the face, and no addition on its way stops it.

The induction is on the entries, with the weights before them as a parameter (`scan_of_lt`). That
the additions fit is carried along as one bound on the exact sum, which the construction of a table
has checked.

Two entries may have the same choice. To say which entry a face belongs to, the choices are replaced
by their places (`numbered`), and the faces of one entry turn out to be an interval as long as its
weight (`card_faces`).
-/

namespace Tabletop.Table

variable {σ α : Type}

/-! ## The labels -/

/-- The labels of the faces from the first one on: every choice as often as its weight, in table
order. -/
def labels (entries : List (UInt32 × α)) : List α :=
  entries.flatMap fun e => List.replicate e.1.toNat e.2

/-- The label of a face. Below the first face stands the first choice, above the last one nothing.
-/
def labelAt (entries : List (UInt32 × α)) (face : UInt32) : Option α :=
  if face = 0 then entries.head?.map Prod.snd else (labels entries)[face.toNat - 1]?

theorem labels_cons (e : UInt32 × α) (entries : List (UInt32 × α)) :
    labels (e :: entries) = List.replicate e.1.toNat e.2 ++ labels entries :=
  List.flatMap_cons

theorem exactWeight_append (before after : List (UInt32 × α)) :
    exactWeight (before ++ after) = exactWeight before + exactWeight after := by
  unfold exactWeight
  rw [List.map_append, List.sum_append_nat]

/-- There are as many faces as the weights add up to. -/
theorem length_labels (entries : List (UInt32 × α)) :
    (labels entries).length = exactWeight entries := by
  induction entries with
  | nil => rfl
  | cons e entries ih =>
    rw [labels_cons, List.length_append, List.length_replicate, ih, exactWeight_cons]

/-- The first faces belong to the first entry, and the others are faces of the table without it. -/
theorem getElem?_labels_cons (e : UInt32 × α) (entries : List (UInt32 × α)) (n : Nat) :
    (labels (e :: entries))[n]? =
      if n < e.1.toNat then some e.2 else (labels entries)[n - e.1.toNat]? := by
  rw [labels_cons, List.getElem?_append, List.length_replicate]
  split
  next h => rw [List.getElem?_replicate, if_pos h]
  next => rfl

/-! ## Scanning for a face -/

/-- One step of a scan whose addition fits. -/
theorem scan_cons {face soFar next : UInt32} {e : UInt32 × α} {entries : List (UInt32 × α)}
    (h : addWeight soFar e.1 = some next) :
    scan face soFar (e :: entries) =
      if face ≤ next then .ok (some e.2) else scan face next entries := by
  rw [scan, h]

/-- An addition fits if it is the first of several that fit together. -/
theorem exists_addWeight_eq_some {soFar : UInt32} {e : UInt32 × α} {entries : List (UInt32 × α)}
    (hfit : soFar.toNat + exactWeight (e :: entries) < UInt32.size) :
    ∃ next, addWeight soFar e.1 = some next ∧ next.toNat = soFar.toNat + e.1.toNat ∧
      next.toNat + exactWeight entries < UInt32.size := by
  rw [exactWeight_cons] at hfit
  cases hadd : addWeight soFar e.1 with
  | none =>
    have hover := addWeight_eq_none_iff.1 hadd
    omega
  | some next =>
    have hnext := addWeight_eq_some_iff.1 hadd
    exact ⟨next, rfl, hnext, by omega⟩

/-- A face that is reached before the scan begins is given to the first entry. -/
theorem scan_of_le {face soFar : UInt32} {entries : List (UInt32 × α)} (h : face ≤ soFar)
    (hfit : soFar.toNat + exactWeight entries < UInt32.size) :
    scan face soFar entries = .ok (entries.head?.map Prod.snd) := by
  cases entries with
  | nil => rfl
  | cons e entries =>
    obtain ⟨next, hadd, hnext, -⟩ := exists_addWeight_eq_some hfit
    have hle : face ≤ next := by
      rw [UInt32.le_iff_toNat_le] at h ⊢
      omega
    rw [scan_cons hadd, if_pos hle]
    rfl

/-- Any other face is given to the entry whose label it bears, counted from the running weight. -/
theorem scan_of_lt {face soFar : UInt32} {entries : List (UInt32 × α)} (h : soFar < face)
    (hfit : soFar.toNat + exactWeight entries < UInt32.size) :
    scan face soFar entries = .ok (labels entries)[face.toNat - soFar.toNat - 1]? := by
  induction entries generalizing soFar with
  | nil => rfl
  | cons e entries ih =>
    obtain ⟨next, hadd, hnext, hrest⟩ := exists_addWeight_eq_some hfit
    rw [UInt32.lt_iff_toNat_lt] at h
    rw [scan_cons hadd, getElem?_labels_cons]
    by_cases hle : face ≤ next
    · have hle' := UInt32.le_iff_toNat_le.1 hle
      have hfirst : face.toNat - soFar.toNat - 1 < e.1.toNat := by omega
      rw [if_pos hle, if_pos hfirst]
    · have hlt : next < face := UInt32.not_le.1 hle
      have hlt' := UInt32.lt_iff_toNat_lt.1 hlt
      have hlater : ¬face.toNat - soFar.toNat - 1 < e.1.toNat := by omega
      have hindex : face.toNat - soFar.toNat - 1 - e.1.toNat = face.toNat - next.toNat - 1 := by
        omega
      rw [if_neg hle, if_neg hlater, hindex]
      exact ih hlt hrest

/-- A scan of weights that fit together gives the label of the face. -/
theorem scan_eq_labelAt {entries : List (UInt32 × α)} (hfit : exactWeight entries < UInt32.size)
    (face : UInt32) : scan face 0 entries = .ok (labelAt entries face) := by
  have hfit' : (0 : UInt32).toNat + exactWeight entries < UInt32.size := by
    rwa [UInt32.toNat_zero, Nat.zero_add]
  unfold labelAt
  by_cases hzero : face = 0
  · rw [if_pos hzero, hzero]
    exact scan_of_le UInt32.le_rfl hfit'
  · have hpos : 0 < face := UInt32.pos_iff_ne_zero.2 hzero
    rw [if_neg hzero, scan_of_lt hpos hfit']
    rfl

/-! ## The faces of an entry -/

/-- The same weights, with the places of the entries, from `start` on, for choices. -/
def numbered (start : Nat) (entries : List (UInt32 × α)) : List (UInt32 × Nat) :=
  (entries.zipIdx start).map fun e => (e.1.1, e.2)

theorem numbered_cons (start : Nat) (e : UInt32 × α) (entries : List (UInt32 × α)) :
    numbered start (e :: entries) = (e.1, start) :: numbered (start + 1) entries := rfl

theorem exactWeight_numbered (start : Nat) (entries : List (UInt32 × α)) :
    exactWeight (numbered start entries) = exactWeight entries := by
  induction entries generalizing start with
  | nil => rfl
  | cons e entries ih => rw [numbered_cons, exactWeight_cons, exactWeight_cons, ih]

theorem le_of_mem_labels_numbered {start place : Nat} {entries : List (UInt32 × α)}
    (h : place ∈ labels (numbered start entries)) : start ≤ place := by
  induction entries generalizing start with
  | nil => cases h
  | cons e entries ih =>
    rw [numbered_cons, labels_cons] at h
    rcases List.mem_append.mp h with hfirst | hrest
    · exact Nat.le_of_eq (List.eq_of_mem_replicate hfirst).symm
    · exact Nat.le_of_succ_le (ih hrest)

/-- The faces of the entry at a place begin behind the weights before it, and end with its own. -/
theorem getElem?_labels_numbered_eq_some_iff (start : Nat) {i n : Nat}
    {entries : List (UInt32 × α)} :
    (labels (numbered start entries))[n]? = some (start + i) ↔
      exactWeight (entries.take i) ≤ n ∧ n < exactWeight (entries.take (i + 1)) := by
  induction entries generalizing start i n with
  | nil =>
    rw [List.take_nil, List.take_nil]
    exact ⟨fun h => (nomatch h), fun ⟨_, h⟩ => absurd h (Nat.not_lt_zero n)⟩
  | cons e entries ih =>
    rw [numbered_cons, getElem?_labels_cons, List.take_succ_cons, exactWeight_cons]
    cases i with
    | zero =>
      rw [List.take_zero, List.take_zero, exactWeight_nil]
      split
      next h => exact ⟨fun _ => ⟨Nat.zero_le n, h⟩, fun _ => rfl⟩
      next h =>
        refine ⟨fun hlater => ?_, fun ⟨_, hn⟩ => absurd hn h⟩
        have hle := le_of_mem_labels_numbered (List.mem_of_getElem? hlater)
        omega
    | succ i =>
      rw [List.take_succ_cons, exactWeight_cons]
      split
      next h =>
        refine ⟨fun hfirst => ?_, fun ⟨hle, _⟩ => ?_⟩
        · have hplace := Option.some.inj hfirst
          dsimp only at hplace
          omega
        · exact absurd h (Nat.not_lt_of_le (Nat.le_trans (Nat.le_add_right _ _) hle))
      next h =>
        have hplace : start + (i + 1) = start + 1 + i := by omega
        rw [hplace, ih]
        dsimp only at h ⊢
        omega

/-- A label is the choice of the entry that its face belongs to. -/
theorem getElem?_labels_eq_bind (start : Nat) {n : Nat} {entries : List (UInt32 × α)} :
    (labels entries)[n]? = (labels (numbered start entries))[n]?.bind fun place =>
      entries[place - start]?.map Prod.snd := by
  induction entries generalizing start n with
  | nil => rfl
  | cons e entries ih =>
    rw [numbered_cons, getElem?_labels_cons, getElem?_labels_cons]
    by_cases h : n < e.1.toNat
    · rw [if_pos h, if_pos h, Option.bind_some, Nat.sub_self]
      rfl
    · rw [if_neg h, if_neg h, ih (start + 1)]
      refine Option.bind_congr fun place hplace => ?_
      have hle := le_of_mem_labels_numbered (List.mem_of_getElem? hplace)
      have hsub : place - start = place - (start + 1) + 1 := by omega
      rw [hsub, List.getElem?_cons_succ]

theorem labelAt_eq_bind (entries : List (UInt32 × α)) (face : UInt32) :
    labelAt entries face = (labelAt (numbered 0 entries) face).bind fun place =>
      entries[place]?.map Prod.snd := by
  unfold labelAt
  split
  next =>
    cases entries with
    | nil => rfl
    | cons e entries => rfl
  next => exact getElem?_labels_eq_bind 0

theorem labelAt_ofNat {entries : List (UInt32 × α)} {n : Nat} (hpos : 1 ≤ n)
    (hlt : n < UInt32.size) : labelAt entries (UInt32.ofNat n) = (labels entries)[n - 1]? := by
  have hn : (UInt32.ofNat n).toNat = n := UInt32.toNat_ofNat_of_lt' hlt
  have hne : UInt32.ofNat n ≠ 0 := by
    intro hzero
    rw [hzero, UInt32.toNat_zero] at hn
    omega
  rw [labelAt, if_neg hne, hn]

/-- An entry is picked by as many faces as its weight says. -/
theorem card_faces {entries : List (UInt32 × α)} (hfit : exactWeight entries < UInt32.size)
    {i : Nat} {weight : UInt32} {choice : α} (hi : entries[i]? = some (weight, choice)) :
    ((Finset.Icc 1 (exactWeight entries)).filter fun n =>
      scan (UInt32.ofNat n) 0 (numbered 0 entries) = .ok (some i)).card = weight.toNat := by
  have hfit' : exactWeight (numbered 0 entries) < UInt32.size := by rwa [exactWeight_numbered]
  have hend : exactWeight (entries.take (i + 1)) = exactWeight (entries.take i) + weight.toNat := by
    rw [List.take_add_one, hi, exactWeight_append]
    rfl
  have hle : exactWeight (entries.take (i + 1)) ≤ exactWeight entries := by
    have hwhole := exactWeight_append (entries.take (i + 1)) (entries.drop (i + 1))
    rw [List.take_append_drop] at hwhole
    omega
  -- counted from one, the faces are those behind the weights before the entry
  have hfaces : ((Finset.Icc 1 (exactWeight entries)).filter fun n =>
      scan (UInt32.ofNat n) 0 (numbered 0 entries) = .ok (some i)) =
      Finset.Ioc (exactWeight (entries.take i)) (exactWeight (entries.take i) + weight.toNat) := by
    ext n
    rw [Finset.mem_filter, Finset.mem_Icc, Finset.mem_Ioc, scan_eq_labelAt hfit', Except.ok.injEq]
    have hmem (hpos : 1 ≤ n) (hn : n ≤ exactWeight entries) :
        labelAt (numbered 0 entries) (UInt32.ofNat n) = some i ↔
          exactWeight (entries.take i) ≤ n - 1 ∧ n - 1 < exactWeight (entries.take (i + 1)) := by
      rw [labelAt_ofNat hpos (Nat.lt_of_le_of_lt hn hfit),
        ← getElem?_labels_numbered_eq_some_iff 0, Nat.zero_add]
    refine ⟨fun ⟨⟨hpos, hn⟩, hlabel⟩ => ?_, fun ⟨hlo, hhi⟩ => ?_⟩
    · obtain ⟨hlo, hhi⟩ := (hmem hpos hn).1 hlabel
      omega
    · have hpos : 1 ≤ n := by omega
      have hn : n ≤ exactWeight entries := by omega
      exact ⟨⟨hpos, hn⟩, (hmem hpos hn).2 (by omega)⟩
  rw [hfaces, Nat.card_Ioc, Nat.add_sub_cancel_left]

/-! ## Tables -/

theorem ofEntries_eq_ok_iff {entries : List (UInt32 × α)} {t : Table α} :
    ofEntries entries = .ok t ↔ t.entries = entries ∧ t.total.toNat = exactWeight entries := by
  unfold ofEntries
  split
  next total htotal =>
    have hexact := weigh_eq_some_iff.1 htotal
    rw [UInt32.toNat_zero, Nat.zero_add] at hexact
    rw [Except.ok.injEq]
    refine ⟨fun h => ?_, fun ⟨hentries, hsum⟩ => ?_⟩
    · rw [← h]
      exact ⟨rfl, hexact⟩
    · have hsame : total = t.total := by rw [← UInt32.toNat_inj, hexact, hsum]
      subst hentries
      subst hsame
      rfl
  next hnone =>
    refine ⟨fun h => (nomatch h), fun ⟨hentries, hsum⟩ => ?_⟩
    -- an exact total that fits would have been found
    have hfound : weigh 0 entries = some t.total := by
      rw [weigh_eq_some_iff, UInt32.toNat_zero, Nat.zero_add, hsum]
    rw [hnone] at hfound
    cases hfound

/-- Choices are refused exactly when their exact weight is no number of sides. -/
theorem ofEntries_eq_error_iff {entries : List (UInt32 × α)} {e : Overweight} :
    ofEntries entries = .error e ↔ 2 ^ 32 - 1 < exactWeight entries := by
  cases hentries : ofEntries entries with
  | ok t =>
    obtain ⟨-, hsum⟩ := ofEntries_eq_ok_iff.1 hentries
    have hlt := t.total.toNat_lt
    refine ⟨fun h => (nomatch h), fun h => ?_⟩
    omega
  | error e' =>
    refine ⟨fun _ => Nat.lt_of_not_le fun hle => ?_, fun _ => rfl⟩
    have hlt : exactWeight entries < UInt32.size := Nat.lt_succ_of_le hle
    have hsum := UInt32.toNat_ofNat_of_lt' hlt
    have hok : ofEntries entries = .ok ⟨entries, UInt32.ofNat (exactWeight entries), hsum⟩ :=
      ofEntries_eq_ok_iff.2 ⟨rfl, hsum⟩
    rw [hok] at hentries
    cases hentries

theorem exactWeight_lt (t : Table α) : exactWeight t.entries < UInt32.size := by
  rw [← t.total_eq]
  exact t.total.toNat_lt

/-- A pick draws nothing from a table without weight, and otherwise throws one die and looks up the
label of its face. -/
theorem select_apply (r : Roller σ) (t : Table α) (s : σ) :
    t.select r s =
      if t.total = 0 then .ok none s
      else match r.roll t.total s with
        | .ok face s => .ok (labelAt t.entries face) s
        | .error halt s => .error halt s := by
  unfold select
  split
  next => rfl
  next =>
    rw [RollM.bind_apply]
    cases r.roll t.total s with
    | ok face s =>
      dsimp only
      rw [scan_eq_labelAt t.exactWeight_lt]
      rfl
    | error halt s => rfl

theorem exists_labelAt_of_le {entries : List (UInt32 × α)} {face : UInt32} (hpos : 1 ≤ face)
    (hle : face.toNat ≤ exactWeight entries) :
    ∃ choice, (labels entries)[face.toNat - 1]? = some choice ∧
      labelAt entries face = some choice := by
  have hpos' : 1 ≤ face.toNat := UInt32.le_iff_toNat_le.1 hpos
  have hlt : face.toNat - 1 < (labels entries).length := by
    rw [length_labels]
    omega
  have hne : face ≠ 0 := by
    rintro rfl
    exact absurd hpos' (by decide)
  have hlabel := List.getElem?_eq_getElem hlt
  refine ⟨_, hlabel, ?_⟩
  rw [labelAt, if_neg hne, hlabel]

theorem labelAt_of_lt {entries : List (UInt32 × α)} {face : UInt32}
    (h : exactWeight entries < face.toNat) : labelAt entries face = none := by
  have hne : face ≠ 0 := by
    rintro rfl
    exact absurd h (Nat.not_lt_zero _)
  rw [labelAt, if_neg hne, List.getElem?_eq_none]
  rw [length_labels]
  omega

/-- **A table picks by its weights.** Choices make a table exactly when their weights, in whatever
order, add up to a number of sides, and the table keeps them with their exact total. Without any
weight a pick draws nothing and gives nothing. Otherwise it throws one die, with the total for
sides, and gives the label of the face thrown: of each choice there are as many faces as its weight
says, one behind the other in table order, and none is blank. Two answers are no faces: to a zero it
gives the first choice, and to more than the total nothing. In no case does the running weight
overflow. -/
theorem select_follows_weights (r : Roller σ) (entries : List (UInt32 × α)) :
    (ofEntries entries = .error {} ↔ 2 ^ 32 - 1 < exactWeight entries) ∧
    (∀ others : List (UInt32 × α), others.Perm entries →
      (ofEntries others = .error {} ↔ ofEntries entries = .error {})) ∧
    (∀ t, ofEntries entries = .ok t ↔
      t.entries = entries ∧ t.total.toNat = exactWeight entries) ∧
    ∀ t, ofEntries entries = .ok t →
      (t.total = 0 → ∀ s, t.select r s = .ok none s) ∧
      (t.total ≠ 0 → ∀ s, t.select r s =
        match r.roll t.total s with
        | .ok face s => .ok (labelAt entries face) s
        | .error halt s => .error halt s) ∧
      (∀ face, 1 ≤ face → face ≤ t.total →
        ∃ choice, (labels entries)[face.toNat - 1]? = some choice ∧
          labelAt entries face = some choice) ∧
      (t.total ≠ 0 → ∃ first rest, entries = first :: rest ∧ labelAt entries 0 = some first.2) ∧
      (∀ face, t.total < face → labelAt entries face = none) ∧
      (∀ face, scan face 0 entries = .ok (labelAt entries face) ∧
        scan face 0 (numbered 0 entries) = .ok (labelAt (numbered 0 entries) face) ∧
        labelAt entries face =
          (labelAt (numbered 0 entries) face).bind fun place => entries[place]?.map Prod.snd) ∧
      ∀ i weight choice, entries[i]? = some (weight, choice) →
        ((Finset.Icc 1 t.total.toNat).filter fun n =>
          scan (UInt32.ofNat n) 0 (numbered 0 entries) = .ok (some i)).card = weight.toNat := by
  refine ⟨ofEntries_eq_error_iff, ?_, fun t => ofEntries_eq_ok_iff, ?_⟩
  · intro others hperm
    have hweight : exactWeight others = exactWeight entries := (hperm.map _).sum_eq
    rw [ofEntries_eq_error_iff, ofEntries_eq_error_iff, hweight]
  · intro t ht
    obtain ⟨rfl, hsum⟩ := ofEntries_eq_ok_iff.1 ht
    have hfit := t.exactWeight_lt
    have hfit' : exactWeight (numbered 0 t.entries) < UInt32.size := by
      rwa [exactWeight_numbered]
    refine ⟨fun h s => ?_, fun h s => ?_, fun face hpos hle => ?_, fun h => ?_,
      fun face hlt => ?_, fun face => ⟨scan_eq_labelAt hfit face, scan_eq_labelAt hfit' face,
        labelAt_eq_bind t.entries face⟩, fun i weight choice hi => ?_⟩
    · rw [select_apply, if_pos h]
    · rw [select_apply, if_neg h]
    · exact exists_labelAt_of_le hpos (hsum ▸ UInt32.le_iff_toNat_le.1 hle)
    · cases hentries : t.entries with
      | nil =>
        rw [hentries] at hsum
        exact absurd (UInt32.toNat_inj.1 hsum) h
      | cons first rest => exact ⟨first, rest, rfl, rfl⟩
    · exact labelAt_of_lt (hsum ▸ UInt32.lt_iff_toNat_lt.1 hlt)
    · rw [hsum]
      exact card_faces hfit hi

end Tabletop.Table
