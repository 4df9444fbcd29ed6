/-!
# Classes of characters as ranges of code points

Some properties of characters follow no rule and are a table: which characters count as white space,
which letters have a case. Such a class is kept as the closed ranges of code points that have the
property, in ascending order, and asked by membership. The tables themselves stand in the modules
named for their property.
-/

namespace Tabletop.Text

/-- The code points from `first` to `last`, both included. -/
structure CodeRange where
  first : Nat
  last : Nat

/-- A class of characters, as the ranges of code points that belong to it. -/
abbrev CharClass := List CodeRange

/-- A character belongs to a class when one of the ranges reaches over it. -/
def CharClass.has (k : CharClass) (c : Char) : Bool :=
  k.any fun r => r.first ≤ c.toNat && c.toNat ≤ r.last

end Tabletop.Text
