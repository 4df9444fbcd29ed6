/-!
# Choosing several positions of a list

To choose `amount` of the positions below `length` without repetition, a number is drawn for each of
them, and each time it is known beforehand between which bounds. So choosing splits in two: the
bounds of the draws (`Method.bounds`), and the positions that the drawn numbers stand for
(`Method.positions`), which is pure. Two methods are in use.

*In place*: the positions are written down in a row; the draw for the `i`-th place names a place
from the `i`-th on, and the two positions there trade places. The row's front is the choice.

*Insertion*: the `i`-th draw lies below a bound that grows by one each time. It is put at the end of
the choice, unless it is in it already; then the bound itself, which cannot be, is put before it.

The first writes down the whole row, the second searches the choice for each draw, so the second is
taken for a small choice out of a long list.
-/

namespace Tabletop.Random

/-- How positions are chosen. -/
inductive Method where
  | inPlace
  | insertion
  deriving DecidableEq

namespace Method

/-- Insertion for few positions out of many. -/
def choose (length amount : Nat) : Method :=
  if 12 ≤ amount ∧ (163 ≤ amount ∨ 5 * length < (50 + 8 * amount) * amount) then inPlace
  else insertion

/-- The lowest and the highest number of each draw. -/
def bounds (length amount : Nat) : Method → List (Nat × Nat)
  | inPlace => (List.range amount).map fun i => (i, length - 1)
  | insertion => (List.range amount).map fun i => (0, length - amount + i)

/-- The front of a row whose places, counted from `place`, trade with the drawn ones in turn. -/
def trade (place : Nat) : (row draws : List Nat) → List Nat
  | x :: row, draw :: draws =>
    if draw ≤ place then x :: trade (place + 1) row draws
    else
      -- the place drawn, counted from behind the front
      let other := draw - place - 1
      row.getD other x :: trade (place + 1) (row.set other x) draws
  | _, _ => []

/-- Puts a drawn number at the end of a choice, or the bound before it if it is there already. -/
def insert (bound draw : Nat) : List Nat → List Nat
  | [] => [draw]
  | x :: rest => if x = draw then bound :: x :: rest else x :: insert bound draw rest

/-- Inserts draws whose bounds grow from `bound` on. -/
def insertAll (bound : Nat) (chosen : List Nat) : (draws : List Nat) → List Nat
  | [] => chosen
  | draw :: draws => insertAll (bound + 1) (insert bound draw chosen) draws

/-- The positions that drawn numbers stand for. -/
def positions (length amount : Nat) (draws : List Nat) : Method → List Nat
  | inPlace => trade 0 (List.range length) draws
  | insertion => insertAll (length - amount) [] draws

/-- Either method draws once for each position. -/
theorem length_bounds (length amount : Nat) (m : Method) :
    (m.bounds length amount).length = amount := by
  cases m <;> simp [bounds]

end Method

end Tabletop.Random
