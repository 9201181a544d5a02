import CrateGraph.Shell.Simple

/-!
# Running commands

A command is run in the session of the shell, or in a shell of its own: the parts of a
pipeline, a command in parentheses, and one that is not waited for. A command that fails
ends the shell if that was asked for, unless it was only asked whether it succeeds.
-/

namespace CrateGraph.Shell

/-- Ends the shell if the last command failed and that is to end it. -/
def checkFailure (tested : Bool) : Work Unit := do
  let s ← get
  if s.has 'e' && !tested && s.status ≠ 0 then
    set { s with keptStatus := none }
    throw .exit

/-- Runs a command that counts if it fails, and then does what is to be done for signals. -/
def counted (self : Perform) (tested : Bool) (w : Work Unit) : Work Unit := do
  try w
  catch
    | .exit => throw .exit
    | .wrong => throw .wrong
    | stop => do
      checkFailure tested
      throw stop
  heed self
  checkFailure tested

/-- What a program that nobody waits for does first: it has nothing to read, and the signals
that users send to stop programs do not matter to it. -/
def enterBackground (first : Bool) : Work Unit := do
  System.react 2 .ignore
  System.react 3 .ignore
  if first then System.attach 0 (.device .null) .reading

/-- Redirects streams for good. -/
def redirectForGood (run : Runner) (targets : List Target) : Work Unit := do
  for target in targets do
    redirectTo run target

/-- Runs a command in a shell of its own, which is this one if nothing follows. -/
def runApart (self : Perform) (last tested background : Bool) (line : Nat)
    (body : Option Command) (redirects : List Redirect) : Work Unit := do
  let run := outputOf self
  modify fun s => { s with line := line }
  let targets ← findTargets run [] redirects
  let inside : Work Unit := do
    redirectForGood run targets
    self (.command body true (tested && !background))
  if last && !background && (← get).traps.all fun t => t.2 = "" then
    enterChild
    inside
  else
    let pid ← forkShell self do
      if background then enterBackground true
      inside
    let job ← addJob [pid]
    if background then
      modify fun s => { s with background := some pid, status := 0 }
    else setStatus (← finishJob job)

/-- Starts the parts of a pipeline, each of which reads what the one before it writes. The
result is their numbers. -/
def startParts (self : Perform) (tested background : Bool) :
    Bool → List Command → Work (List Nat)
  | _, [] => return []
  | first, c :: rest => do
    let (before, readEnd, writeEnd) := (112, 113, 114)
    if !rest.isEmpty then System.pipe readEnd writeEnd
    let pid ← forkShell self do
      if background then enterBackground first
      if !rest.isEmpty then System.detach readEnd
      if !first then
        let _ ← System.duplicate 0 before
        System.detach before
      if !rest.isEmpty then
        let _ ← System.duplicate 1 writeEnd
        System.detach writeEnd
      self (.command c true tested)
    if !first then System.detach before
    if !rest.isEmpty then
      let _ ← System.duplicate before readEnd
      System.detach readEnd
      System.detach writeEnd
    return pid :: (← startParts self tested background false rest)

/-- Runs a pipeline. -/
def runPipeline (self : Perform) (tested background : Bool) (parts : List Command) :
    Work Unit := do
  let pids ← startParts self tested background true parts
  let job ← addJob pids
  if background then
    modify fun s => { s with background := pids.getLast?, status := 0 }
  else setStatus (← finishJob job)

/-- What a loop does after a part of it has stopped: it stops for a reason of its own, goes
on with the next round, or ends. -/
inductive AfterPart where
  | stops (s : Stop)
  | goesOn
  | ends

/-- Runs a part of a loop. -/
def runPart (w : Work Unit) : Work AfterPart := do
  try
    w
    return .goesOn
  catch
    | .leave 1 => return .ends
    | .leave n => return .stops (.leave (n - 1))
    | .again 1 => return .goesOn
    | .again n => return .stops (.again (n - 1))
    | stop => return .stops stop

/-- Runs the rounds of a loop. The status is that of the last round. -/
def runRounds (self : Perform) (tested untilTrue : Bool) (test body : Option Command) :
    Nat → Nat → Work Unit
  | 0, _ => stall
  | rounds + 1, status => do
    let again ← try
        self (.command test false true)
        pure none
      catch stop => pure (some stop)
    match again with
    | some (.again 1) => runRounds self tested untilTrue test body rounds status
    | some (.again n) => do
      setStatus status
      throw (.again (n - 1))
    | some (.leave 1) => setStatus status
    | some (.leave n) => do
      setStatus status
      throw (.leave (n - 1))
    | some stop => throw stop
    | none =>
      if decide ((← get).status = 0) = untilTrue then setStatus status
      else match ← runPart (self (.command body false tested)) with
        | .stops stop => throw stop
        | .ends => return ()
        | .goesOn => runRounds self tested untilTrue test body rounds (← get).status

/-- Runs a command for each value of a variable. -/
def runForEach (self : Perform) (tested : Bool) (name : String) (body : Option Command) :
    List String → Work Unit
  | [] => return ()
  | value :: values => do
    assign name value
    match ← runPart (self (.command body false tested)) with
    | .stops stop => throw stop
    | .ends => return ()
    | .goesOn => runForEach self tested name body values

/-- Runs something with one more loop around it. -/
def inLoop (w : Work Unit) : Work Unit := do
  let count (f : Nat → Nat) : Work Unit := modify fun s => { s with loops := f s.loops }
  count (· + 1)
  try w
  catch stop => do
    count (· - 1)
    throw stop
  count (· - 1)

/-- Whether a text is like one of some patterns. -/
def fitsOne (run : Runner) (text : String) : List Word → Work Bool
  | [] => return false
  | pattern :: patterns => do
    if (← expandPattern run pattern).fits text.toList then return true
    else fitsOne run text patterns

/-- The body of the first arm of which a pattern is like a text. -/
def chooseArm (run : Runner) (text : String) :
    List (List Word × Option Command) → Work (Option Command)
  | [] => return none
  | (patterns, body) :: arms => do
    if ← fitsOne run text patterns then return body else chooseArm run text arms

/-- Runs a command with its streams redirected. -/
def runRedirected (self : Perform) (tested : Bool) (line : Nat) (body : Option Command)
    (redirects : List Redirect) : Work Unit := do
  let run := outputOf self
  modify fun s => { s with line := line }
  let targets ← findTargets run [] redirects
  System.keep
  try
    if ← redirectAll run targets then self (.command body false tested) else setStatus 2
  catch stop => do
    System.restore
    throw stop
  System.restore

/-- Runs a command that has parts, or is one. -/
def runCommand (self : Perform) (last tested : Bool) : Command → Work Unit
  | .simple line assignments words redirects =>
    counted self tested (runSimple self last tested line assignments words redirects)
  | .redirected line body redirects => runRedirected self tested line body redirects
  | .apart line body redirects =>
    counted self tested (runApart self last tested false line body redirects)
  | .background line body redirects =>
    counted self tested (runApart self last tested true line body redirects)
  | .pipeline parts background =>
    counted self tested (runPipeline self tested background parts)
  | .sequence first second => do
    self (.command first false tested)
    self (.command second last tested)
  | .both first second => do
    self (.command first false true)
    if (← get).status = 0 then self (.command second last tested)
  | .either first second => do
    self (.command first false true)
    if (← get).status ≠ 0 then self (.command second last tested)
  | .negate c => do
    let flip : Work Unit := modify fun s => { s with status := if s.status = 0 then 1 else 0 }
    try self (.command c false true)
    catch
      | .exit => throw .exit
      | .wrong => throw .wrong
      | stop => do
        flip
        throw stop
    flip
  | .choose test yes no => do
    self (.command test false true)
    let chosen := if (← get).status = 0 then yes else no
    if chosen.isNone then setStatus 0 else self (.command chosen last tested)
  | .loop untilTrue test body =>
    inLoop (runRounds self tested untilTrue test body manyRounds 0)
  | .forEach line name words body => do
    modify fun s => { s with line := line }
    let values ← expandWords (outputOf self) words
    if values.isEmpty then setStatus 0
    else inLoop (runForEach self tested name body values)
  | .select line word arms => do
    modify fun s => { s with line := line }
    let run := outputOf self
    let text ← expandText run word
    match ← chooseArm run text arms with
    | some body => self (.command (some body) last tested)
    | none => setStatus 0
  | .define _ name body => do
    modify fun s =>
      { s with functions := (name, body) :: s.functions.filter fun f => f.1 ≠ name }
    setStatus 0

/-- Runs a command, and ends the shell after it if nothing follows. -/
def evaluate (self : Perform) (c : Option Command) (last tested : Bool) : Work Unit := do
  match c with
  | some c => if !(← get).has 'n' then runCommand self last tested c
  | none => pure ()
  if last then
    modify fun s => { s with keptStatus := none }
    throw .exit

end CrateGraph.Shell
