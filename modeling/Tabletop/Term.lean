import Tabletop.Numeral
import Tabletop.Sign

/-!
# Terms — constants and dice

A term is a number or a throw of several equal dice, and a signed term carries the sign it enters a
sum with. Each has one written form (`text`): a number in decimal, dice as repetitions, the letter
`d` and faces, a signed term as its sign followed by the term. A negative constant keeps its own
minus behind the sign of the term.

Reading is wider than writing: a number may carry a plus and leading zeros, and so may each half of
a dice term. A text is taken for a number first and for dice only if it is none, so the complaint
about a text that is neither is always one about dice.
-/

namespace Tabletop

/-- Several equal dice thrown together. Dice without faces are never thrown and count nothing. -/
structure Dice where
  repetitions : UInt32
  faces : UInt32
  deriving DecidableEq

namespace Dice

/-- One die. -/
def single (faces : UInt32) : Dice := ⟨1, faces⟩

/-- The same die, thrown as often as told. -/
def times (d : Dice) (repetitions : UInt32) : Dice := ⟨repetitions, d.faces⟩

/-- A coin. -/
def d2 : Dice := single 2

/-- A tetrahedron. -/
def d4 : Dice := single 4

/-- A cube. -/
def d6 : Dice := single 6

/-- An octahedron. -/
def d8 : Dice := single 8

/-- A decahedron. -/
def d10 : Dice := single 10

/-- A dodecahedron. -/
def d12 : Dice := single 12

/-- An icosahedron. -/
def d20 : Dice := single 20

/-- The percentile die. -/
def d100 : Dice := single 100

/-- How many single dice one throw takes. -/
def draws (d : Dice) : Nat := if d.faces = 0 then 0 else d.repetitions.toNat

/-- The written form. -/
def text (d : Dice) : List Char :=
  Numeral.ofUInt32 d.repetitions ++ 'd' :: Numeral.ofUInt32 d.faces

/-- Why a text is not dice. -/
inductive Fault where
  /-- There is no letter `d` in it. -/
  | noDelimiter
  /-- What stands before the first `d` is no number of dice. -/
  | repetitions (fault : Numeral.Fault)
  /-- What stands after the first `d` is no number of faces. -/
  | faces (fault : Numeral.Fault)
  deriving DecidableEq

/-- The wording of a fault. -/
def Fault.message : Fault → String
  | .noDelimiter => "cannot parse string as dice without 'd' delimiter"
  | .repetitions fault => "invalid number of dice: " ++ fault.message
  | .faces fault => "invalid number of faces: " ++ fault.message

/-- Reads the halves before and after the first `d`, the one before it first. -/
def read (text : List Char) : Except Fault Dice :=
  match text.dropWhile (· != 'd') with
  | [] => .error .noDelimiter
  | _ :: after =>
    match Numeral.readUInt32 (text.takeWhile (· != 'd')) with
    | .error fault => .error (.repetitions fault)
    | .ok repetitions =>
      match Numeral.readUInt32 after with
      | .error fault => .error (.faces fault)
      | .ok faces => .ok ⟨repetitions, faces⟩

end Dice

/-- A number, or dice. -/
inductive Term where
  | constant (value : Int64)
  | dice (dice : Dice)
  deriving DecidableEq

namespace Term

/-- How many single dice the term takes. -/
def draws : Term → Nat
  | constant _ => 0
  | dice d => d.draws

/-- The written form. -/
def text : Term → List Char
  | constant value => Numeral.ofInt64 value
  | dice d => d.text

/-- Reads a number, or else dice. -/
def read (text : List Char) : Except Dice.Fault Term :=
  match Numeral.readInt64 text with
  | .ok value => .ok (constant value)
  | .error _ => (Dice.read text).map dice

end Term

/-- A term under the sign it enters a sum with. -/
structure SignedTerm where
  sign : Sign
  term : Term
  deriving DecidableEq

namespace SignedTerm

/-- A term that is added. -/
def plus (term : Term) : SignedTerm := ⟨.plus, term⟩

/-- The same term under the other sign. -/
def inverted (t : SignedTerm) : SignedTerm := ⟨t.sign.inverted, t.term⟩

/-- How many single dice the term takes. -/
def draws (t : SignedTerm) : Nat := t.term.draws

/-- The written form: always with the sign. -/
def text (t : SignedTerm) : List Char := t.sign.glyph :: t.term.text

@[simp] theorem inverted_inverted (t : SignedTerm) : t.inverted.inverted = t := by
  simp [inverted]

@[simp] theorem draws_inverted (t : SignedTerm) : t.inverted.draws = t.draws := rfl

end SignedTerm

end Tabletop
