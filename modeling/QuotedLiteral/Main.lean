import QuotedLiteral.Command.Run
import Std.Time.Format

/-!
# Command line
-/

open QuotedLiteral

def readInput : IO Text := do
  let bytes ← (← IO.getStdin).readBinToEnd
  return (Utf8.decode bytes.toList).normalizeNewlines

def currentTime : IO Text := do
  let now ← Std.Time.PlainDateTime.now
  return Text.ofString (now.format "uuuu-MM-dd HH:mm:ss")

def environmentValue? (name : String) : IO (Option Text) := do
  return (← IO.getEnv name).map Text.ofString

def main (arguments : List String) : IO UInt32 := do
  let words := arguments.map Text.ofString
  let input ← if Invocation.readsInput words then readInput else pure []
  let session : Session :=
    { environment :=
        { dialect := ← environmentValue? "STRLIT_DIALECT"
          ascii := ← environmentValue? "STRLIT_ASCII" }
      input := input
      encoding := .utf8
      time := ← currentTime }
  match session.run words with
  | .ok answer =>
      IO.print (answer.output.toString?.getD "")
      IO.eprint (answer.errors.toString?.getD "")
      return answer.exit.toNat.toUInt32
  | .error breakdown =>
      IO.eprintln (breakdown.message.toString?.getD "")
      return 1
