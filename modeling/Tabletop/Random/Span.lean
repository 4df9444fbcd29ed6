import Tabletop.Random.Generator
import Tabletop.Roller

/-!
# Even draws from an interval of words

A word of `w` bits is brought into an interval of `n` values by multiplying it with `n` and keeping
the upper half of the product: the words fall into `n` blocks of nearly equal size, one for each
value. They are made equal by rejecting the words whose lower half lies above a *zone*, and trying
again with the next word. Two zones are in use. One is found by a shift and rejects up to half of
the words; the other needs a division and rejects as few as possible. Either is right for any `n`.

Everything is arithmetic modulo `2 ^ w`. The interval that holds every word has length 0 there, and
then the word itself is the answer. The bounds may be unsigned or signed, since adding the offset to
the lower one wraps in the same way for both.

There is no telling how many words will be rejected, so a draw is given a number of trials
(`patience`) and stops when they are used up.
-/

namespace Tabletop.Random

variable {σ : Type} {w : Nat}

/-- The number of values from `low` to `high`, both included; 0 stands for all of them. -/
def span (low high : BitVec w) : BitVec w := high - low + 1

/-- The zone whose bound plus one is the length, doubled as often as fits. -/
def shiftedZone (length : BitVec w) : BitVec w := (length <<< length.clz) - 1

/-- The zone whose bound plus one is the largest multiple of the length. -/
def exactZone (length : BitVec w) : BitVec w := BitVec.allOnes w - -length % length

/-- The value that a word stands for, or none if the word is rejected. -/
def place (zone low length word : BitVec w) : Option (BitVec w) :=
  let product := word.toNat * length.toNat
  -- the lower half says whether the word counts, the upper half what for
  if BitVec.ofNat w product ≤ zone then some (low + BitVec.ofNat w (product >>> w)) else none

/-- One trial of a draw between two bounds, with the zone that a rule assigns to the length. -/
def trial (zone : BitVec w → BitVec w) (low high word : BitVec w) : Option (BitVec w) :=
  if span low high = 0 then some word
  else place (zone (span low high)) low (span low high) word

/-- Tries word after word until one is accepted. -/
def firstAccepted (word : σ → BitVec w × σ) (accept : BitVec w → Option (BitVec w)) :
    (patience : Nat) → RollM σ (BitVec w)
  | 0 => throw .unsettled
  | patience + 1 => fun s =>
    match accept (word s).1 with
    | some value => .ok value (word s).2
    | none => firstAccepted word accept patience (word s).2

/-- Trials without practical bound: more words than a generator gives in a lifetime. -/
def unhurried : Nat := 0x4000000000000000

end Tabletop.Random
