import Tabletop.Checked

/-!
# Rollers

A roller is asked for faces: for that of one die with a given number of sides, or for the sum of
several such dice. It keeps a state from one question to the next, whatever that state may be — the
faces still to come, a count, a random generator — so a roll is a step that takes a state to a state
and gives an answer on the way, or stops (`Halt`). A roll that stops keeps the state it has reached:
dice once drawn are not put back.

Most rollers know only single dice, and sum by asking again and again (`Roller.ofDie`). The sum is
checked after every die.
-/

namespace Tabletop

variable {σ : Type}

/-- A step over roller states of type `σ`, which may stop on the way. -/
abbrev RollM (σ : Type) := EStateM Halt σ

/-- A checked value as a step that asks for no face. -/
def RollM.ofExcept {α : Type} : Except Halt α → RollM σ α
  | .ok a => pure a
  | .error halt => throw halt

/-- The second step starts from the state that the first one leaves, unless that one stops. -/
theorem RollM.bind_apply {α β : Type} (x : RollM σ α) (f : α → RollM σ β) (s : σ) :
    (x >>= f) s = match x s with
      | .ok a s => f a s
      | .error halt s => .error halt s := by
  show EStateM.bind x f s = _
  unfold EStateM.bind
  cases x s <;> rfl

/-- How the face of a die with a given number of sides is found. -/
abbrev Die (σ : Type) := UInt32 → RollM σ UInt32

/-- A die with sides has at least one. -/
theorem Die.one_le_sides {sides : UInt32} (h : sides ≠ 0) : 1 ≤ sides.toNat := by
  have hpos : 0 < sides := UInt32.pos_iff_ne_zero.2 h
  exact UInt32.lt_iff_toNat_lt.1 hpos

/-- A source of faces. -/
structure Roller (σ : Type) where
  /-- The face of one die. -/
  roll : Die σ
  /-- The sum of a number of dice with the same sides. -/
  rollSum : (repetitions sides : UInt32) → RollM σ Int64

/-- Repeats a draw and adds the faces onto `total`, one after the other. -/
def sumFaces (draw : RollM σ UInt32) : (times : Nat) → (total : Int64) → RollM σ Int64
  | 0, total => pure total
  | times + 1, total => do
    let face ← draw
    let total ← RollM.ofExcept (Checked.add total (Int64.ofNat face.toNat))
    sumFaces draw times total

/-- The roller that sums by drawing single dice. -/
def Roller.ofDie (die : Die σ) : Roller σ where
  roll := die
  rollSum repetitions sides := sumFaces (die sides) repetitions.toNat 0

end Tabletop
