/-!
# Checked sums

Constants and results are signed 64-bit numbers, and arithmetic on them never wraps: a sum or a
negation whose exact value leaves the range stops the roll. Each operation is the exact one on the
integers, narrowed back; `narrow_eq_ok_iff` and `narrow_eq_error_iff` say that it succeeds exactly
when the value fits and then is that value.

`Halt` lists the ways in which a roll can stop: the two overflows, and the two ways in which a
source of faces can fail to give one.
-/

namespace Tabletop

/-- Why a roll stopped before it had a result. -/
inductive Halt where
  /-- A sum left the range. -/
  | addOverflow
  /-- The lowest number has no opposite. -/
  | negateOverflow
  /-- A fixed sequence of faces came to its end. -/
  | exhausted
  /-- A generator gave no usable word in the trials it was allowed. -/
  | unsettled
  deriving DecidableEq

/-- The wording of a stop. -/
def Halt.message : Halt → String
  | .addOverflow => "attempt to add with overflow"
  | .negateOverflow => "attempt to negate with overflow"
  | .exhausted => "no scripted roll left"
  | .unsettled => "no word settled the draw"

namespace Checked

/-- The integers that a signed 64-bit number can hold. -/
def InRange (n : Int) : Prop := -0x8000000000000000 ≤ n ∧ n < 0x8000000000000000

instance (n : Int) : Decidable (InRange n) := inferInstanceAs (Decidable (_ ∧ _))

/-- An exact integer as a signed 64-bit number, or the given stop when it does not fit. -/
def narrow (otherwise : Halt) (n : Int) : Except Halt Int64 :=
  if InRange n then .ok (Int64.ofInt n) else .error otherwise

/-- The sum, if it fits. -/
def add (a b : Int64) : Except Halt Int64 := narrow .addOverflow (a.toInt + b.toInt)

/-- The opposite, if it fits. -/
def neg (a : Int64) : Except Halt Int64 := narrow .negateOverflow (-a.toInt)

/-- A signed 64-bit number is in range. -/
theorem inRange_toInt (a : Int64) : InRange a.toInt := by
  have hlo := Int64.le_toInt a
  have hhi := Int64.toInt_lt a
  exact ⟨by omega, by omega⟩

/-- A natural number below the upper end is in range. -/
theorem inRange_natCast {n : Nat} (h : n < 0x8000000000000000) : InRange n := ⟨by omega, by omega⟩

/-- A value in range survives being stored. -/
theorem toInt_ofInt_of_inRange {n : Int} (h : InRange n) : (Int64.ofInt n).toInt = n := by
  obtain ⟨hlo, hhi⟩ := h
  exact Int64.toInt_ofInt_of_le (by omega) (by omega)

/-- The number that stores a value in range is the one that denotes it. -/
theorem ofInt_eq_iff {n : Int} (h : InRange n) {a : Int64} : Int64.ofInt n = a ↔ a.toInt = n := by
  rw [← Int64.toInt_inj, toInt_ofInt_of_inRange h]
  exact eq_comm

/-- Narrowing succeeds with the number that denotes the exact value, and with no other. -/
theorem narrow_eq_ok_iff {halt : Halt} {n : Int} {a : Int64} :
    narrow halt n = .ok a ↔ a.toInt = n := by
  unfold narrow
  split
  next h =>
    rw [Except.ok.injEq, ofInt_eq_iff h]
  next h =>
    refine ⟨fun e => (nomatch e), fun e => ?_⟩
    rw [← e] at h
    exact absurd (inRange_toInt a) h

/-- Narrowing stops exactly on the values out of range. -/
theorem narrow_eq_error_iff {halt stop : Halt} {n : Int} :
    narrow halt n = .error stop ↔ ¬InRange n ∧ stop = halt := by
  unfold narrow
  split
  next h => simp [h]
  next h => simp [h, eq_comm]

end Checked

end Tabletop
