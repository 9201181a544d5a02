import CrateGraph.Shell.Children
import CrateGraph.Shell.Expansion
import CrateGraph.Shell.Launch
import CrateGraph.Shell.Reader

/-!
# Running scripts

A script is read command by command, and each command is run before the next one is read,
since it may change what the words after it mean. What a script writes may become part of a
word, and a script may say what is done when a signal comes or when the shell ends.
-/

namespace CrateGraph.Shell

/-- The next command of a script, with the aliases that there are now. -/
def nextOf (r : Reader) : Work (Reading.Extract × Reader) := do
  let s ← get
  let r := { r with aliases := s.aliases, documents := [], nextDocument := s.nextDocument }
  match r.nextCommand with
  | .error e => do
    modify fun s => { s with line := e.line }
    refuse e.message
  | .ok (extract, r) => do
    modify fun s =>
      { s with documents := r.documents ++ s.documents, nextDocument := r.nextDocument }
    return (extract, r)

/-- Runs the commands of a script. The last one may end the shell. The result is the status,
given the one up to now. -/
def runFrom (self : Perform) (last tested : Bool) : Nat → Nat → Reader → Work Nat
  | 0, status, _ => return status
  | rounds + 1, status, r => do
    match ← nextOf r with
    | (.ended, _) => return status
    | (.command none, r) => runFrom self last tested rounds status r
    | (.command c, r) => do
      self (.command c (last && r.isDone) tested)
      runFrom self last tested rounds (← get).status r

/-- Runs a script that is a text. The result is its status. -/
def runText (self : Perform) (last tested : Bool) (text : String) : Work Nat :=
  runFrom self last tested manyRounds 0 (.ofText text 0)

/-! ## Signals -/

/-- What is done for signals that have come. The status remains, unless that ends a
function. -/
def runTraps (self : Perform) : Nat → List Nat → Work Unit
  | _, [] => return ()
  | status, n :: ns => do
    modify fun s => { s with pending := s.pending.filter (· ≠ n) }
    match (← get).traps.lookup n with
    | some action =>
      let _ ← runText self false false action
      setStatus status
    | none => pure ()
    runTraps self status ns

/-- Does what is to be done for the signals that have come. -/
def heed (self : Perform) : Work Unit := do
  let came ← System.notes
  let s ← get
  if !(came.isEmpty && s.pending.isEmpty) then
    let pending := s.pending ++ came.filter fun n => !s.pending.contains n
    let status := s.keptStatus.getD s.status
    modify fun s => { s with pending := pending, keptStatus := some status }
    try runTraps self status (pending.mergeSort fun a b => decide (a ≤ b))
    catch
      | .exit => throw .exit
      | .wrong => throw .wrong
      | stop => do
        modify fun t => { t with keptStatus := s.keptStatus }
        throw stop
    modify fun t => { t with keptStatus := s.keptStatus }

/-! ## The end of a shell -/

/-- The status with which a shell ends, given whether it is told to end. -/
def settleStatus (told : Bool) : Work Unit :=
  modify fun s =>
    { s with
      status := if told then s.keptStatus.getD s.status else s.status
      keptStatus := none
      loops := 0 }

/-- Runs something, and then does what is to be done at the end of the shell. -/
def asShell (self : Perform) (w : Work Unit) : Work Unit := do
  try
    w
    settleStatus false
  catch
    | .exit => settleStatus true
    | _ => settleStatus false
  match (← get).traps.lookup 0 with
  | none => return ()
  | some action => do
    modify fun s =>
      { s with traps := s.traps.filter fun t => t.1 ≠ 0, keptStatus := some s.status }
    try
      let _ ← runText self false false action
      settleStatus true
    catch
      | .wrong => settleStatus false
      | _ => settleStatus true

/-- Starts a shell inside the shell, and gives its number. -/
def forkShell (self : Perform) (w : Work Unit) : Work Nat :=
  fork do
    enterChild
    asShell self w

/-! ## Commands inside words -/

/-- A text without the line ends at its end. -/
def withoutEnds (cs : List Char) : String :=
  String.ofList (cs.reverse.dropWhile (· = '\n')).reverse

/-- Runs a command in a shell of its own, and gives what it writes. -/
def outputOf (self : Perform) : Runner
  | none => return ""
  | some c => do
    let (readEnd, writeEnd) := (110, 111)
    System.pipe readEnd writeEnd
    let pid ← forkShell self do
      System.detach readEnd
      let _ ← System.duplicate 1 writeEnd
      System.detach writeEnd
      self (.command c true false)
    let job ← addJob [pid]
    System.detach writeEnd
    let bytes := (← readAll readEnd).toOption.getD []
    System.detach readEnd
    let status ← finishJob job
    modify fun s => { s with outputStatus := status }
    return withoutEnds ((Text.raw bytes).toList.filter (· ≠ '\x00'))

end CrateGraph.Shell
