import CrateGraph.Process.Bounded
import CrateGraph.Process.Spawn

/-!
# Executing programs

A program is started and run under limits. What is returned is its output, or why there is
none; how the program itself ended is part of the output, and no error here.
-/

namespace CrateGraph

/-- Why a program gave no output. -/
inductive ProcessError where
  | spawn (command : String) (e : FileError)
  | outputLimit (command : String) (budget : Nat)
  /-- The program was given so many nanoseconds. -/
  | timeout (command : String) (ns : Nat)
  /-- The program could not be looked at, or what it wrote could not be read. -/
  | io (command : String) (e : FileError)
deriving DecidableEq, Repr

namespace Text

/-- Digits after a point, without the zeros at their end. -/
def fraction (digits : List Char) : String :=
  match (digits.reverse.dropWhile (· = '0')).reverse with
  | [] => ""
  | kept => "." ++ String.ofList kept

/-- A number of units, each of which is divided into `10 ^ places`. -/
def units (places n : Nat) : String :=
  toString (n / Nat.pow 10 places) ++ fraction (padded places (n % Nat.pow 10 places)).toList

/-- A number of nanoseconds as a duration, in the largest unit of which there is a whole one. -/
def duration (ns : Nat) : String :=
  if 1000000000 ≤ ns then units 9 ns ++ "s"
  else if 1000000 ≤ ns then units 6 ns ++ "ms"
  else if 1000 ≤ ns then units 3 ns ++ "µs"
  else toString ns ++ "ns"

end Text

/-- The error in words. -/
def ProcessError.message : ProcessError → String
  | .spawn command e => "failed to spawn `" ++ command ++ "`: " ++ e.message
  | .outputLimit command budget =>
    "`" ++ command ++ "` wrote more than " ++ toString budget ++ " bytes of output"
  | .timeout command ns => "`" ++ command ++ "` did not finish within " ++ Text.duration ns
  | .io command e => "I/O error while running `" ++ command ++ "`: " ++ e.message

/-- What comes of a run, as the output of the program or the error that there is instead. -/
def Run.Outcome.result (command : String) (l : Limits) : Run.Outcome → Except ProcessError Output
  | .output o => .ok o
  | .stopped .outputLimit => .error (.outputLimit command l.budget.toNat)
  | .stopped .timeout => .error (.timeout command (l.timeout.getD 0))
  | .failed e => .error (.io command e)

/-- Runs a program under limits. -/
def Machine.execute (m : Machine) (c : Invocation) (l : Limits) :
    Except ProcessError Output × Machine :=
  match m.spawn c l with
  | .error e => (.error (.spawn c.display e), m)
  | .ok (run, m) => ((run.bounded l).result c.display l, m)

end CrateGraph
