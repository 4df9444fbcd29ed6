import Tabletop.Context
import Tabletop.Expr.Reading
import Tabletop.Text.Blank

/-!
# The prompt

A conversation goes line by line: a mark is shown, a line is read, and an answer or a complaint is
given before the mark is shown again. A line of white space is passed over. Every other line starts
with a fresh count of dice, so the budget is one for each line; the roller goes on from line to
line.

A conversation ends with its input, or before that in two ways: a line that is no text at all, and a
roll that stops half-way. Each has its exit code. `transcript` is the whole conversation as a
function of its lines.
-/

namespace Tabletop.Prompt

variable {σ : Type}

/-- What is shown before a line is read. -/
def mark : String := "> "

/-- The number of dice one line may take, out of the setting that the user made. -/
def limitOf (setting : Option String) : Nat :=
  match setting.map fun text => Numeral.readNat Context.highestCount text.toList with
  | some (.ok limit) => limit
  | _ => Context.defaultLimit

/-- Cuts an input into lines. A line feed ends a line, together with one carriage return before it;
the last line needs no end, and nothing is a line after the last end. -/
def splitLines : List UInt8 → List (List UInt8)
  | [] => []
  | 0x0d :: 0x0a :: rest => [] :: splitLines rest
  | 0x0a :: rest => [] :: splitLines rest
  | byte :: rest =>
    match splitLines rest with
    -- nothing follows, so this byte is all of the last line
    | [] => [[byte]]
    | line :: lines => (byte :: line) :: lines

/-- The text of a line, if its bytes are the encoding of one. -/
def decode (line : List UInt8) : Option String := String.fromUTF8? (ByteArray.mk line.toArray)

/-- What one line brings about: what is said aloud, what is complained about, and the exit code if
the conversation ends with it. -/
structure Turn where
  out : String := ""
  err : String := ""
  exit : Option Nat := none
  deriving DecidableEq

/-- A line that is an answer or a complaint. -/
def Turn.answer (text : String) : Turn := { out := text ++ "\n" }

/-- A line on the channel for complaints. -/
def Turn.complaint (text : String) : Turn := { err := "Error: " ++ text ++ "\n" }

/-- The end of a conversation at a line that is no text. -/
def Turn.undecodable : Turn where
  err := "Error: Error \x7b kind: InvalidData, "
    ++ "message: \"stream did not contain valid UTF-8\" \x7d\n"
  exit := some 1

/-- The end of a conversation at a roll that stops. -/
def Turn.crash : Turn := { exit := some 101 }

/-- Rolls an expression for a line of its own. -/
def evaluate (r : Roller σ) (e : Expr) (c : Context σ) : Turn × Context σ :=
  match Context.eval r e c.reset with
  | .ok rolled c => (.answer rolled.shown, c)
  | .error (.overBudget refusal) c => (.complaint refusal.message, c)
  | .error (.halted _) c => (.crash, c)

/-- The turn of a line, and the context it leaves. -/
def turn (r : Roller σ) (line : Option String) (c : Context σ) : Turn × Context σ :=
  match line with
  | none => (.undecodable, c)
  | some text =>
    if Text.isBlank text.toList then ({}, c)
    else match Expr.read text with
      | .error error => (.complaint error.message, c.reset)
      | .ok e => evaluate r e c

/-- All that a conversation leaves behind. -/
structure Transcript where
  out : String
  err : String
  code : Nat
  deriving DecidableEq

/-- A transcript in which a turn comes first, the mark following it unless it ends all. -/
def Turn.before (t : Turn) (rest : Transcript) : Transcript :=
  match t.exit with
  | some code => ⟨t.out, t.err, code⟩
  | none => ⟨t.out ++ mark ++ rest.out, t.err ++ rest.err, rest.code⟩

/-- The conversation over some lines, once the first mark is shown. -/
def follow (r : Roller σ) : (lines : List (Option String)) → Context σ → Transcript
  | [], _ => ⟨"", "", 0⟩
  | line :: lines, c => (turn r line c).1.before (follow r lines (turn r line c).2)

/-- The conversation over some lines with a given limit. -/
def transcript (r : Roller σ) (limit : Nat) (source : σ) (lines : List (Option String)) :
    Transcript :=
  let t := follow r lines (.new (some limit) source)
  { t with out := mark ++ t.out }

end Tabletop.Prompt
