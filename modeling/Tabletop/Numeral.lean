/-!
# Decimal numerals of bounded size

Reading goes digit by digit and stops at the first thing that is wrong, so that of a stray
character and a value grown too large the one further left is reported. One sign may stand in
front: a plus always, a minus only where negative numbers are meant. Leading zeros are accepted,
but never written.

Writing uses the digits of the standard library, `Nat.toDigits`.
-/

namespace Tabletop.Numeral

/-- Why a text is no numeral of the wanted size. -/
inductive Fault where
  | empty
  | invalidDigit
  | tooLarge
  | tooSmall
  deriving DecidableEq

/-- The wording of a fault. -/
def Fault.message : Fault → String
  | .empty => "cannot parse integer from empty string"
  | .invalidDigit => "invalid digit found in string"
  | .tooLarge => "number too large to fit in target type"
  | .tooSmall => "number too small to fit in target type"

/-- Reads digits from left to right on top of the value `acc` of those before them, as long as the
value stays within `most`. -/
def readOnto (most acc : Nat) : List Char → Except Fault Nat
  | [] => .ok acc
  | c :: rest =>
    if c.isDigit then
      let next := 10 * acc + (c.toNat - '0'.toNat)
      if next ≤ most then readOnto most next rest else .error .tooLarge
    else .error .invalidDigit

/-- Reads a run of digits, of which there is at least one. -/
def readDigits (most : Nat) : List Char → Except Fault Nat
  | [] => .error .invalidDigit
  | digits => readOnto most 0 digits

/-- Reads a natural number of at most `most`, with or without a plus. -/
def readNat (most : Nat) : List Char → Except Fault Nat
  | [] => .error .empty
  | '+' :: digits => readDigits most digits
  | digits => readDigits most digits

/-- Reads an unsigned 32-bit number. -/
def readUInt32 (text : List Char) : Except Fault UInt32 :=
  (readNat 0xffffffff text).map UInt32.ofNat

/-- Reads a signed 64-bit number. -/
def readInt64 : List Char → Except Fault Int64
  | '-' :: digits =>
    match readDigits 0x8000000000000000 digits with
    | .ok n => .ok (Int64.ofInt (-n))
    -- what grows too large behind a minus is a number too far below zero
    | .error .tooLarge => .error .tooSmall
    | .error fault => .error fault
  | text => (readNat 0x7fffffffffffffff text).map fun n => Int64.ofInt n

/-- Writes a natural number. -/
def ofNat (n : Nat) : List Char := Nat.toDigits 10 n

/-- Writes an integer, a minus in front when it is negative. -/
def ofInt : Int → List Char
  | .ofNat n => ofNat n
  | .negSucc n => '-' :: ofNat (n + 1)

/-- A natural number as part of a message. -/
def decimal (n : Nat) : String := String.ofList (ofNat n)

/-- Writes an unsigned 32-bit number. -/
def ofUInt32 (n : UInt32) : List Char := ofNat n.toNat

/-- Writes a signed 64-bit number. -/
def ofInt64 (n : Int64) : List Char := ofInt n.toInt

theorem le_ofDigitChars (acc : Nat) (digits : List Char) :
    acc ≤ Nat.ofDigitChars 10 digits acc := by
  induction digits generalizing acc with
  | nil => simp
  | cons c rest ih =>
    rw [Nat.ofDigitChars_cons]
    exact Nat.le_trans (by omega) (ih _)

/-- Reading gives the value of the digits, as far as it is within the bound: that every step stays
within it follows from the last one. -/
theorem readOnto_eq_ok_iff {most acc : Nat} {digits : List Char} (h : acc ≤ most) :
    readOnto most acc digits = .ok (Nat.ofDigitChars 10 digits acc) ↔
      (∀ c ∈ digits, c.isDigit = true) ∧ Nat.ofDigitChars 10 digits acc ≤ most := by
  induction digits generalizing acc with
  | nil => simp [readOnto, h]
  | cons c rest ih =>
    rw [readOnto, Nat.ofDigitChars_cons]
    by_cases hc : c.isDigit = true
    · by_cases hm : 10 * acc + (c.toNat - '0'.toNat) ≤ most
      · simp only [hc, hm, if_true, ih hm, List.forall_mem_cons, true_and]
      · have hle := le_ofDigitChars (10 * acc + (c.toNat - '0'.toNat)) rest
        have hover : ¬Nat.ofDigitChars 10 rest (10 * acc + (c.toNat - '0'.toNat)) ≤ most :=
          fun hle' => hm (Nat.le_trans hle hle')
        simp only [hc, hm, hover, if_true, if_false, and_false, reduceCtorEq]
    · simp [hc]

end Tabletop.Numeral
