import Tabletop.Roller

/-!
# Weighted tables

A table lists choices with weights, and one die with as many sides as the weights add up to picks
from it: the choices take up the faces in table order, each as many as its weight, so a choice of
weight zero is never met by a face of the die. The total has to be a number of sides, and a table
whose weights add up to more is refused.

Weights are added from left to right, and every addition is checked: a table is refused at the first
one that does not fit (`weigh`), and the running weight of a pick would stop the roll there
(`scan`). That the total is the exact sum is part of the type of tables, and follows from the
additions that led to it (`weigh_eq_some_iff`).
-/

namespace Tabletop

variable {σ α : Type}

namespace Table

/-- The exact sum of the weights of some entries. -/
def exactWeight (entries : List (UInt32 × α)) : Nat :=
  -- the sum of no weights is the number `0`, whatever algebra is imported besides
  @List.sum Nat _ Zero.ofOfNat0 (entries.map fun e => e.1.toNat)

/-- A running weight with one more weight, if it is still a number of sides. -/
def addWeight (soFar weight : UInt32) : Option UInt32 :=
  if soFar.toNat + weight.toNat < UInt32.size then some (soFar + weight) else none

/-- A running weight with those of some entries, if it never leaves the range. -/
def weigh (soFar : UInt32) (entries : List (UInt32 × α)) : Option UInt32 :=
  entries.foldlM (fun soFar e => addWeight soFar e.1) soFar

@[simp] theorem exactWeight_nil : exactWeight ([] : List (UInt32 × α)) = 0 := rfl

@[simp] theorem exactWeight_cons (e : UInt32 × α) (entries : List (UInt32 × α)) :
    exactWeight (e :: entries) = e.1.toNat + exactWeight entries := rfl

/-- An addition is carried out exactly or not at all. -/
theorem addWeight_eq_some_iff {soFar weight total : UInt32} :
    addWeight soFar weight = some total ↔ total.toNat = soFar.toNat + weight.toNat := by
  unfold addWeight
  have hlt := total.toNat_lt
  split
  next h =>
    rw [Option.some.injEq, ← UInt32.toNat_inj, UInt32.toNat_add, Nat.mod_eq_of_lt h]
    exact eq_comm
  next h =>
    refine ⟨fun e => (nomatch e), fun e => absurd ?_ h⟩
    rw [← e]
    exact hlt

theorem addWeight_eq_none_iff {soFar weight : UInt32} :
    addWeight soFar weight = none ↔ UInt32.size ≤ soFar.toNat + weight.toNat := by
  unfold addWeight
  split
  next h => simp [h]
  next h => simp [Nat.le_of_not_lt h]

/-- So the whole sum is exact, or some addition did not fit. -/
theorem weigh_eq_some_iff {soFar total : UInt32} {entries : List (UInt32 × α)} :
    weigh soFar entries = some total ↔ total.toNat = soFar.toNat + exactWeight entries := by
  induction entries generalizing soFar with
  | nil =>
    show some soFar = some total ↔ total.toNat = soFar.toNat + 0
    rw [Option.some.injEq, ← UInt32.toNat_inj, Nat.add_zero]
    exact eq_comm
  | cons e entries ih =>
    have hlt := total.toNat_lt
    show (addWeight soFar e.1).bind (fun soFar => weigh soFar entries) = some total ↔ _
    rw [exactWeight_cons]
    cases hadd : addWeight soFar e.1 with
    | none =>
      have hover := addWeight_eq_none_iff.1 hadd
      refine ⟨fun h => (nomatch h), fun h => absurd hlt ?_⟩
      rw [h]
      exact Nat.not_lt_of_le (Nat.le_trans hover (by omega))
    | some next =>
      have hnext := addWeight_eq_some_iff.1 hadd
      rw [Option.bind_some, ih, hnext, Nat.add_assoc]

end Table

/-- Weighted choices whose total is a number of sides. -/
structure Table (α : Type) where
  entries : List (UInt32 × α)
  total : UInt32
  total_eq : total.toNat = Table.exactWeight entries

namespace Table

/-- The weights add up to more than the number of sides a die can have. -/
structure Overweight where
  deriving DecidableEq

/-- The wording of the complaint. -/
def Overweight.message (_ : Overweight) : String :=
  "total weight of the table does not fit in 32 bits"

/-- The table of some choices, unless they are too heavy together. -/
def ofEntries (entries : List (UInt32 × α)) : Except Overweight (Table α) :=
  match h : weigh 0 entries with
  | some total => .ok ⟨entries, total, by rw [weigh_eq_some_iff.1 h]; exact Nat.zero_add _⟩
  | none => .error {}

/-- The first choice at which the weight so far reaches a face. -/
def scan (face : UInt32) : (soFar : UInt32) → List (UInt32 × α) → Except Halt (Option α)
  | _, [] => .ok none
  | soFar, (weight, choice) :: rest =>
    match addWeight soFar weight with
    | none => .error .addOverflow
    | some soFar => if face ≤ soFar then .ok (some choice) else scan face soFar rest

/-- Picks a choice with one die, or none without drawing when there is no weight at all. -/
def select (r : Roller σ) (t : Table α) : RollM σ (Option α) :=
  if t.total = 0 then pure none
  else do
    let face ← r.roll t.total
    RollM.ofExcept (scan face 0 t.entries)

end Table

end Tabletop
