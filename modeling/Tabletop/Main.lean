import Tabletop.Prompt
import Tabletop.Random.Dice

/-!
# The program

Holds a conversation over the standard streams, with a generator seeded from the system. All that is
said is decided by `Prompt.turn`; this module reads bytes and prints what it is given.
-/

namespace Tabletop.Main

open Tabletop.Random

/-- Reads bytes up to a line feed or the end of the input, the latest first. -/
partial def readRaw (input : IO.FS.Stream) (bytes : List UInt8) : IO (List UInt8) := do
  match (← input.read 1).data.toList with
  | [] => return bytes
  | byte :: _ => if byte == 0x0a then return byte :: bytes else readRaw input (byte :: bytes)

/-- Takes turn after turn until one of them, or the input, ends the conversation. -/
partial def converse (roller : Roller UInt64) (context : Context UInt64) : IO UInt32 := do
  let output ← IO.getStdout
  output.putStr Prompt.mark
  output.flush
  match Prompt.splitLines (← readRaw (← IO.getStdin) []).reverse with
  | [] => return 0
  | line :: _ =>
    let (turn, context) := Prompt.turn roller (Prompt.decode line) context
    output.putStr turn.out
    (← IO.getStderr).putStr turn.err
    match turn.exit with
    | some code => return UInt32.ofNat code
    | none => converse roller context

/-- A word from the system to start the generator with. -/
def seed : IO UInt64 := do
  let bytes ← IO.getRandomBytes 8
  return bytes.data.foldl (fun word byte => word * 256 + byte.toUInt64) 0

end Tabletop.Main

/-- Converses with the limit set in the environment. -/
def main : IO UInt32 := do
  let limit := Tabletop.Prompt.limitOf (← IO.getEnv "DICE_MAX_ROLLS")
  let roller := Tabletop.Random.Generator.splitMix.roller Tabletop.Random.unhurried
  Tabletop.Main.converse roller (.new (some limit) (← Tabletop.Main.seed))
