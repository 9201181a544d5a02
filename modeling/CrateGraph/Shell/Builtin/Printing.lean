import CrateGraph.Shell.Builtin.Names
import CrateGraph.Shell.Builtin.Places
import CrateGraph.Shell.Builtin.Signals
import CrateGraph.Shell.Condition
import CrateGraph.Shell.Format

/-!
# Commands of the shell itself

The commands that print, and all those that need no other command to do their work, by
name. Each is given its arguments, and its result is its status.
-/

namespace CrateGraph.Shell

/-- A remark about an argument of `printf`. -/
def Remark.message : Remark → String
  | .noNumber arg => arg ++ ": expected numeric value"
  | .notWhole arg => arg ++ ": not completely converted"
  | .tooGreat arg => arg ++ ": Numerical result out of range"

/-- Prints arguments with a format. -/
def printFormat (args : List String) : Work Nat := do
  let args ← operandsOf args
  match args with
  | [] => refuse "usage: printf format [arg ...]"
  | format :: args =>
    let r := formatted .shellFormat .shellText format args
    for remark in r.remarks do
      warn remark.message
    match r.fault with
    | some (text, cut) => do
      warn (if cut then "missing format character" else text ++ ": invalid directive")
      say (String.ofList r.printed.chars)
      setStatus 2
      throw .wrong
    | none => do
      say (String.ofList r.printed.chars)
      return if r.remarks.isEmpty then 0 else 1

/-- Says whether a condition holds. -/
def testCondition (args : List String) : Work Nat := do
  match Condition.holds ⟨← System.tree, (← get).cwd⟩ args with
  | .ok holds => return if holds then 0 else 1
  | .error e => refuse e.message

/-- The number of loops that a command is about, as far as there are so many. -/
def loopCount (args : List String) : Work Nat := do
  match args with
  | [] => return min 1 (← get).loops
  | arg :: _ => do
    let n ← numberIn arg
    if n = 0 then refuse ("Illegal number: " ++ arg) else return min n (← get).loops

/-- Runs a command of the shell that needs no other command. -/
def runBuiltin? (name : String) (args : List String) : Option (Work Nat) :=
  match name with
  | ":" | "true" => some (return 0)
  | "false" => some (return 1)
  | "echo" => some do
    say (echoed args)
    return 0
  | "printf" => some (printFormat args)
  | "test" => some (testCondition args)
  | "[" => some (if args.getLast? = some "]" then testCondition args.dropLast
      else refuse "missing ]")
  | "alias" => some (aliasCommand args)
  | "unalias" => some (unalias args)
  | "type" => some (describeAll 0 args)
  | "command" => some (commandNamed args)
  | "hash" => some (hashCommand args)
  | "cd" | "chdir" => some (changeDir args)
  | "pwd" => some (tellDir args)
  | "umask" => some (changeMask args)
  | "ulimit" => some (limit args)
  | "export" | "readonly" => some (markVars name args)
  | "local" => some (makeLocals args)
  | "unset" => some (unset args)
  | "set" => some (setCommand args)
  | "shift" => some (shift args)
  | "getopts" => some (getOptions args)
  | "read" => some (readVars args)
  | "kill" => some (kill args)
  | "trap" => some (trap args)
  | "wait" => some (wait args)
  | "jobs" => some (listJobs args)
  | "fg" | "bg" => some (refuse "job (null) not created under job control")
  | "times" => some do
    say "0m0.000000s 0m0.000000s\n0m0.000000s 0m0.000000s\n"
    return 0
  | "exit" => some do
    match args with
    | [] => pure ()
    | arg :: _ => do
      let n ← numberIn arg
      modify fun s => { s with keptStatus := some n }
    throw .exit
  | "return" => some do
    match args with
    | [] => pure ()
    | arg :: _ => setStatus (← numberIn arg)
    throw .back
  | "break" => some do
    let n ← loopCount args
    setStatus 0
    if n > 0 then throw (.leave n) else return 0
  | "continue" => some do
    let n ← loopCount args
    setStatus 0
    if n > 0 then throw (.again n) else return 0
  | _ => none

end CrateGraph.Shell
