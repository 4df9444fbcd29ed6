/-!
# Generators of words

A generator turns a state into a word of 64 bits and the next state. A word of 32 bits is the upper
half of a whole one, so it costs as much.

The generator of this library is SplitMix64: a counter that advances by a fixed odd number and
whose value is scrambled on the way out. `Generator.after` puts chosen words in front of any
generator, and `Generator.metered` counts the words taken.
-/

namespace Tabletop.Random

variable {σ : Type}

/-- A source of words. -/
structure Generator (σ : Type) where
  next : σ → UInt64 × σ

namespace Generator

/-- The next whole word. -/
def word64 (g : Generator σ) (s : σ) : BitVec 64 × σ :=
  ((g.next s).1.toBitVec, (g.next s).2)

/-- The upper half of the next word. -/
def word32 (g : Generator σ) (s : σ) : BitVec 32 × σ :=
  ((g.next s).1.toBitVec.extractLsb' 32 32, (g.next s).2)

/-- The scrambling of SplitMix64. -/
def scramble (z : UInt64) : UInt64 :=
  let z := (z ^^^ (z >>> 30)) * 0xbf58476d1ce4e5b9
  let z := (z ^^^ (z >>> 27)) * 0x94d049bb133111eb
  z ^^^ (z >>> 31)

/-- SplitMix64; the state is its counter. -/
def splitMix : Generator UInt64 where
  next counter :=
    let counter := counter + 0x9e3779b97f4a7c15
    (scramble counter, counter)

/-- The words of a list, and then those of a generator. -/
def after (g : Generator σ) : Generator (List UInt64 × σ) where
  next
    | (word :: words, s) => (word, (words, s))
    | ([], s) => ((g.next s).1, ([], (g.next s).2))

/-- The same words, with a count of those taken. -/
def metered (g : Generator σ) : Generator (σ × Nat) where
  next s := ((g.next s.1).1, ((g.next s.1).2, s.2 + 1))

end Generator

end Tabletop.Random
