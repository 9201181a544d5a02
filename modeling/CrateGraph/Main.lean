import CrateGraph.CommandLine.Report
import CrateGraph.Json.Tree
import CrateGraph.Machine.Snapshot

/-!
# The program

The program reads the snapshot of a machine from its input and runs a command on it. An
empty input stands for a machine that has nothing but its system.
-/

/-- The machine that a text describes. -/
def readMachine (text : String) : Except String CrateGraph.Machine :=
  match CrateGraph.Json.parseText (if CrateGraph.Text.trim text = "" then "\x7b\x7d" else text) with
  | .error _ => .error "the snapshot of the machine is no JSON document"
  | .ok v =>
    (CrateGraph.Machine.decode .json v).mapError fun e =>
      "the snapshot of the machine does not fit: " ++ e.message .json

/-- Runs a command on the machine that the input describes. -/
def main (args : List String) : IO UInt32 := do
  let text ← (← IO.getStdin).readToEnd
  match readMachine text with
  | .error e =>
    IO.eprintln ("error: " ++ e)
    return 1
  | .ok m =>
    let outcome := CrateGraph.CommandLine.run m args
    IO.print outcome.out
    IO.eprint outcome.err
    return outcome.code.toUInt32
