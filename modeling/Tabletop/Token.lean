import Tabletop.Sign
import Tabletop.Text.Lowercase

/-!
# Tokens of dice notation

Notation is read without regard to letter case and layout: the text is lower-cased as a whole,
spaces and tabs are dropped wherever they stand, even inside a number, and what remains falls into
signs and words. A sign is always a token of its own; a word is a longest run of characters that
are not signs, whatever they are. Nothing is refused at this stage.

Because a word is a longest run, two words never stand next to each other (`scan_alternates`), and
because nothing is dropped after the blanks, the tokens spell the text they were cut from
(`flatMap_text_scan`).
-/

namespace Tabletop

/-- A sign, or a run of other characters. -/
inductive Token where
  | sign (sign : Sign)
  | word (text : List Char)
  deriving DecidableEq

namespace Token

/-- The characters of a token. -/
def text : Token → List Char
  | sign s => [s.glyph]
  | word cs => cs

/-- Whether a token is a sign. -/
def isSign : Token → Bool
  | sign _ => true
  | word _ => false

/-- The blanks that are dropped: the space and the tab, and no other white space. -/
def isFiller (c : Char) : Bool := c == ' ' || c == '\t'

/-- Puts a character in front of a scanned text: into its first word, or as a word of its own. -/
def joinFront (c : Char) : List Token → List Token
  | word cs :: rest => word (c :: cs) :: rest
  | tokens => word [c] :: tokens

/-- Cuts a text into signs and words. -/
def scan : List Char → List Token
  | [] => []
  | c :: rest =>
    match Sign.ofChar? c with
    | some s => sign s :: scan rest
    | none => joinFront c (scan rest)

/-- The tokens of a text as it was typed. -/
def ofText (text : List Char) : List Token :=
  scan ((Text.lower text).filter fun c => !isFiller c)

theorem flatMap_text_joinFront (c : Char) (tokens : List Token) :
    (joinFront c tokens).flatMap text = c :: tokens.flatMap text := by
  unfold joinFront
  split <;> simp [text]

/-- The tokens spell the scanned text. -/
theorem flatMap_text_scan (cs : List Char) : (scan cs).flatMap text = cs := by
  induction cs with
  | nil => rfl
  | cons c rest ih =>
    rw [scan]
    split
    next s hs => simp [text, ih, Sign.ofChar?_eq_some_iff.1 hs]
    next => rw [flatMap_text_joinFront, ih]

/-- Of two neighbouring tokens one is a sign. -/
def Alternates : List Token → Prop
  | first :: second :: rest =>
    (first.isSign = true ∨ second.isSign = true) ∧ Alternates (second :: rest)
  | _ => True

theorem Alternates.tail {first : Token} {rest : List Token} (h : Alternates (first :: rest)) :
    Alternates rest := by
  cases rest with
  | nil => trivial
  | cons second rest => exact h.2

theorem Alternates.cons_sign {rest : List Token} (h : Alternates rest) (s : Sign) :
    Alternates (sign s :: rest) := by
  cases rest with
  | nil => trivial
  | cons second rest => exact ⟨.inl rfl, h⟩

theorem Alternates.joinFront {tokens : List Token} (h : Alternates tokens) (c : Char) :
    Alternates (joinFront c tokens) := by
  match tokens, h with
  | [], _ => trivial
  | sign s :: rest, h => exact ⟨.inr rfl, h⟩
  | [word _], _ => trivial
  | word cs :: second :: rest, h => exact ⟨h.1, h.2⟩

/-- Two words never stand next to each other. -/
theorem scan_alternates (cs : List Char) : Alternates (scan cs) := by
  induction cs with
  | nil => trivial
  | cons c rest ih =>
    rw [scan]
    split
    · exact ih.cons_sign _
    · exact ih.joinFront c

end Token

end Tabletop
