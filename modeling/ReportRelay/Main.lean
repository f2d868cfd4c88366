/-
# The program

Reads lines from the standard input and writes what the command makes of them to the
standard output.
-/
import ReportRelay.Command

open ReportRelay

/-- A line without its end. -/
def withoutNewline (line : String) : String :=
  String.ofList (line.toList.reverse.dropWhile (· == '\n')).reverse

/-- Reads lines to the end of the input, and writes what becomes of each. -/
partial def eachLine {σ : Type} (take : σ → String → σ × List String) (state : σ) : IO Unit := do
  let line ← (← IO.getStdin).getLine
  if line.isEmpty then return
  let (state, lines) := take state (withoutNewline line)
  for text in lines do
    IO.println text
  eachLine take state

/-- Runs the command that the arguments ask for. -/
def main (arguments : List String) : IO UInt32 := do
  match Command.ofArguments? arguments with
  | some (.serve config) =>
    eachLine Server.takeLine (Server.ofConfig config)
    return 0
  | some .watch =>
    eachLine (fun (_ : Unit) line => ((), watchLine line)) ()
    return 0
  | none =>
    IO.eprintln Command.usage
    return 2
