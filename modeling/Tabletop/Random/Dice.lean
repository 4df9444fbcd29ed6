import Tabletop.Random.Span

/-!
# Dice from a generator

Every generator is a roller. A single die finds its zone by a shift, which is quick to set up; a sum
of dice sets up the exact zone once and draws them all with it.
-/

namespace Tabletop.Random

variable {σ : Type}

/-- A number of 32 bits from `low` to `high`, the zone found by `zone`. -/
def between (zone : BitVec 32 → BitVec 32) (patience : Nat) (g : Generator σ)
    (low high : UInt32) : RollM σ UInt32 := do
  let value ← firstAccepted g.word32 (trial zone low.toBitVec high.toBitVec) patience
  return UInt32.ofBitVec value

/-- The roller that throws fair dice with a generator. -/
def Generator.roller (patience : Nat) (g : Generator σ) : Roller σ where
  roll sides := between shiftedZone patience g 1 sides
  rollSum repetitions sides :=
    sumFaces (between exactZone patience g 1 sides) repetitions.toNat 0

/-- An integer between two others, which may be given in either order. -/
def integer (patience : Nat) (g : Generator σ) (a b : Int64) : RollM σ Int64 := do
  let low := if a ≤ b then a else b
  let high := if a ≤ b then b else a
  let value ← firstAccepted g.word64 (trial shiftedZone low.toBitVec high.toBitVec) patience
  return Int64.ofBitVec value

end Tabletop.Random
