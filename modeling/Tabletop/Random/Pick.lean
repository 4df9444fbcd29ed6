import Tabletop.Random.Dice
import Tabletop.Random.Selection

/-!
# Picking from a pool

One element, several with repetition, or several from distinct positions. An empty pool gives
nothing and costs no word; a pool of one element costs a word for every pick, though there is
nothing to decide.
-/

namespace Tabletop.Random

variable {σ α : Type}

/-- A position from `low` to `high`. -/
def position (patience : Nat) (g : Generator σ) (low high : Nat) : RollM σ Nat := do
  let value ← between shiftedZone patience g (UInt32.ofNat low) (UInt32.ofNat high)
  return value.toNat

/-- One element of a pool, if it has any. -/
def choice (patience : Nat) (g : Generator σ) (pool : List α) : RollM σ (Option α) :=
  if pool.isEmpty then pure none
  else do
    let i ← position patience g 0 (pool.length - 1)
    return pool[i]?

/-- A number of elements picked one by one, each from the whole pool. -/
def sequence (patience : Nat) (g : Generator σ) (pool : List α) (amount : Nat) :
    RollM σ (List α) :=
  if pool.isEmpty then pure []
  else do
    let picked ← (List.replicate amount ()).mapM fun _ => choice patience g pool
    return picked.filterMap id

/-- Distinct positions of a list, as many as asked for or as there are. -/
def positions (patience : Nat) (g : Generator σ) (length amount : Nat) : RollM σ (List Nat) := do
  let amount := min amount length
  let method := Method.choose length amount
  let draws ← (method.bounds length amount).mapM fun (low, high) => position patience g low high
  return method.positions length amount draws

/-- Elements of a pool from distinct positions, as many as asked for or as there are. -/
def elements (patience : Nat) (g : Generator σ) (pool : List α) (amount : Nat) :
    RollM σ (List α) := do
  let chosen ← positions patience g pool.length amount
  return chosen.filterMap (pool[·]?)

end Tabletop.Random
