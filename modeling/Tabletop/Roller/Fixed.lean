import Tabletop.Roller

/-!
# Dice with foreseeable faces

Three dice whose faces are known beforehand: one that counts upward and reduces the count to the
sides asked for, one that hands out a list of faces as they are and then stops, and one that starts
its list over at the end. The listed faces are not held to the sides of the die.

`Die.recorded` wraps any die and notes the sides of every draw that succeeded.
-/

namespace Tabletop

variable {σ : Type}

namespace Die

/-- The count `n`, which is at least 1, shows the face that `n` reaches when the faces are told off
in a circle. The count goes on without end; a counter of 32 bits shows the same faces, but it stops at
its highest number, where it cannot go on to the next one. -/
def counting : Die Nat := fun sides next =>
  .ok (UInt32.ofNat ((next - 1) % sides.toNat + 1)) (next + 1)

/-- The listed faces, each once. -/
def scripted : Die (List UInt32) := fun _ faces =>
  match faces with
  | [] => .error .exhausted []
  | face :: rest => .ok face rest

/-- The listed faces over and over; the state is what is left of the current round. -/
def cycling (faces : List UInt32) : Die (List UInt32) := fun sides left =>
  scripted sides (if left.isEmpty then faces else left)

/-- A state together with the sides of the draws made so far, the latest first. -/
structure Recorded (σ : Type) where
  source : σ
  drawn : List UInt32

/-- The same die, keeping a record of its draws. -/
def recorded (die : Die σ) : Die (Recorded σ) := fun sides r =>
  match die sides r.source with
  | .ok face source => .ok face ⟨source, sides :: r.drawn⟩
  | .error halt source => .error halt { r with source := source }

/-- Puts one more item in front of runs of equal items. -/
def countFront (sides : UInt32) : List (UInt32 × Nat) → List (UInt32 × Nat)
  | (first, count) :: rest =>
    if first = sides then (first, count + 1) :: rest else (sides, 1) :: (first, count) :: rest
  | [] => [(sides, 1)]

/-- The recorded draws in the order they were made, equal neighbours counted together. -/
def Recorded.runs (r : Recorded σ) : List (UInt32 × Nat) :=
  r.drawn.reverse.foldr countFront []

end Die

end Tabletop
