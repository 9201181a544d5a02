import CrateGraph.Shell.Builtin.Variables
import CrateGraph.Shell.Children

/-!
# Commands about signals and programs

The commands of the shell that send signals, choose what is done when they come, and wait
for programs. Each is given its arguments, and its result is its status.
-/

namespace CrateGraph.Shell

/-- The names that scripts use for signals, from the first one on. -/
def signalWordList : List String :=
  ["HUP", "INT", "QUIT", "ILL", "TRAP", "ABRT", "BUS", "FPE", "KILL", "USR1", "SEGV", "USR2",
    "PIPE", "ALRM", "TERM", "16", "CHLD", "CONT", "STOP", "TSTP", "TTIN", "TTOU", "URG", "XCPU",
    "XFSZ", "VTALRM", "PROF", "WINCH", "IO", "PWR", "SYS", "32", "33", "RTMIN"]
    ++ (List.range 15).map (fun n => "RTMIN+" ++ toString (n + 1))
    ++ (List.range 14).map (fun n => "RTMAX-" ++ toString (14 - n))
    ++ ["RTMAX"]

/-- The name of a signal, or of the end of the shell. -/
def signalWord (n : Nat) : String :=
  if n = 0 then "EXIT" else signalWordList[n - 1]?.getD (toString n)

/-- The number of a signal that is given by its number. -/
def signalNumber? (s : String) : Option Nat :=
  if s ≠ "" && s.toList.all Char.isDigit then
    let n := numberOf 10 s.toList
    if n ≤ 64 then some n else none
  else none

/-- The number of a signal that is given in any way, from some number on by its name. -/
def signalOf? (least : Nat) (s : String) : Option Nat :=
  match signalNumber? s with
  | some n => some n
  | none =>
    (List.range 65).find? fun n => n ≥ least && signalWord n = String.ofList (s.toList.map Char.toUpper)

/-- How `kill` is used. -/
def killUsage : String :=
  "Usage: kill [-s sigspec | -signum | -sigspec] [pid | job]... or\nkill -l [exitstatus]"

/-- The job that an argument names. -/
def jobNamed (arg : String) : Work Job := do
  let s ← get
  let found := match arg.toList.tail with
    | [] | ['%'] | ['+'] => s.jobs.head?
    | ['-'] => s.jobs.tail.head?
    | digits => if digits.all Char.isDigit then job? s (numberOf 10 digits) else none
  match found with
  | some j => return j
  | none => refuse ("No such job: " ++ arg)

/-- Sends a signal to each of some programs. -/
def sendSignals (n : Nat) : Nat → List String → Work Nat
  | status, [] => return status
  | status, arg :: args => do
    let target : Int ← match arg.toList with
      | '%' :: _ => do
        let j ← jobNamed arg
        pure ((j.members.head?.map (fun m => (m.1 : Int))).getD 0)
      | '-' :: cs => do pure (-((← numberIn (String.ofList cs)) : Int))
      | _ => do pure ((← numberIn arg) : Int)
    if ← System.signal target n then sendSignals n status args
    else
      warn "No such process\n"
      sendSignals n 1 args

/-- Lists signals, or names one. -/
def listSignals : List String → Work Nat
  | [] => do
    say ("0\n" ++ String.join (signalWordList.map (· ++ "\n")))
    return 0
  | arg :: _ => do
    let n ← numberIn arg
    let n := if n > 128 then n - 128 else n
    if 0 < n && n ≤ 64 then
      say (signalWord n ++ "\n")
      return 0
    else refuse ("invalid signal number or exit status: " ++ arg)

/-- Sends a signal, or lists signals. -/
def kill (args : List String) : Work Nat := do
  let direct := match args with
    | arg :: _ => match arg.toList with
      | '-' :: cs => signalOf? 1 (String.ofList cs)
      | _ => none
    | [] => none
  match direct with
  | some n => if args.tail.isEmpty then refuse killUsage else sendSignals n 0 args.tail
  | none =>
    let (options, args) ← optionsOf "ls:" args
    let list := options.any fun o => o.1 = 'l'
    let named := (options.filterMap fun o => if o.1 = 's' then o.2 else none)
    match named.find? fun name => (signalOf? 1 name).isNone with
    | some name => refuse ("invalid signal number or name: " ++ name)
    | none =>
      if list then
        if named.isEmpty then listSignals args else refuse killUsage
      else if args.isEmpty then refuse killUsage
      else sendSignals ((named.getLast?.bind (signalOf? 1)).getD 15) 0 args

/-! ## What is done when signals come -/

/-- Chooses what is done when a signal comes, or at the end of the shell. A signal that
whoever started the shell had it ignore remains ignored. -/
def setTrap (n : Nat) (action : Option String) : Work Unit := do
  let s ← get
  let before := s.traps.lookup n
  let others := s.traps.filter fun t => t.1 ≠ n
  set { s with traps := match action with
    | some text => (n, text) :: others
    | none => others }
  if n ≠ 0 then
    let fixed := decide ((← System.reaction n) = .ignore) && before ≠ some ""
    if !fixed then
      System.react n <| match action with
        | none => .default
        | some "" => .ignore
        | some _ => .note

/-- Chooses what is done when each of some signals comes. -/
def setTraps (action : Option String) : List String → Work Nat
  | [] => return 0
  | arg :: args => do
    match signalOf? 0 arg with
    | some n => do
      setTrap n action
      setTraps action args
    | none => do
      complain ("trap: " ++ arg ++ ": bad trap\n")
      return 1

/-- Chooses what is done when signals come, or lists that. -/
def trap (args : List String) : Work Nat := do
  let args ← operandsOf args
  match args with
  | [] => do
    let traps := (← get).traps.mergeSort fun a b => decide (a.1 ≤ b.1)
    say <| String.join <| traps.map fun t =>
      "trap -- " ++ inQuotes t.2 ++ " " ++ signalWord t.1 ++ "\n"
    return 0
  | [arg] => setTraps none [arg]
  | action :: rest =>
    if (signalNumber? action).isSome then setTraps none args
    else setTraps (if action = "-" then none else some action) rest

/-! ## Waiting -/

/-- The first signal that has come. -/
def firstPending : Work Nat := do
  let came ← System.notes
  modify fun s => { s with pending := s.pending ++ came }
  return ((← get).pending.min?).getD 0

/-- Waits for each of some programs or jobs; the result is the status of the last one that
there is. -/
def waitForEach : Nat → List String → Work Nat
  | status, [] => return status
  | status, arg :: args => do
    let job ← match arg.toList with
      | '%' :: _ => do pure (some (← jobNamed arg))
      | _ => do
        let pid ← numberIn arg
        pure ((← get).jobs.find? fun j => j.members.getLast?.any fun m => m.1 = pid)
    match job with
    | none => waitForEach status args
    | some j =>
      if ← awaitJob true j.number manyRounds then
        let status := ((job? (← get) j.number).map Job.status).getD 0
        modify fun s =>
          { s with
            jobs := s.jobs.map fun k => if k.number = j.number then { k with waited := true } else k }
        waitForEach status args
      else return 128 + (← firstPending)

/-- Waits for programs. -/
def wait (args : List String) : Work Nat := do
  let args ← operandsOf args
  if args.isEmpty then
    if ← awaitAll manyRounds then return 0 else return 128 + (← firstPending)
  else waitForEach 127 args

/-- The state of a job in words. -/
def Job.stateText (j : Job) : String :=
  if !j.isDone then "Running"
  else match (j.members.getLast?.bind (·.2)) with
    | some (.exited 0) => "Done"
    | some (.exited n) => "Done(" ++ toString n ++ ")"
    | some (.signaled n) => wordsOf n
    | none => "Done"

/-- A job in a list, with a mark for the last ones. -/
def Job.line (j : Job) (mark : Char) (pids : Bool) : String :=
  let start := "[" ++ toString j.number ++ "] " ++ mark.toString ++ " "
  let gap := fun (s : String) => s ++ String.ofList (List.replicate (max 1 (33 - s.length)) ' ')
  if pids then
    let lines := j.members.zipIdx.map fun (m, i) =>
      if i = 0 then gap (start ++ toString m.1 ++ " " ++ j.stateText)
      else
        let text := String.ofList (List.replicate start.length ' ') ++ toString m.1 ++ " "
        " |\n" ++ text ++ String.ofList (List.replicate (max 1 (33 - (text.length - 3))) ' ')
    String.join lines ++ "\n"
  else
    gap (start ++ j.stateText) ++ String.join (j.members.tail.map fun _ => " | ") ++ "\n"

/-- Lists jobs, and forgets those that have ended. -/
def listJobs (args : List String) : Work Nat := do
  let (options, args) ← optionsOf "lp" args
  let mode := options.getLast?.map (·.1)
  let named ← args.mapM jobNamed
  let all := (← get).jobs
  let shown := if args.isEmpty then all else named
  let line := fun (all : List Job) (j : Job) =>
    if mode = some 'p' then (((j.members.head?.map (·.1)).map toString).getD "") ++ "\n"
    else
      let mark := if all.head?.any (·.number = j.number) then '+'
        else if all.tail.head?.any (·.number = j.number) then '-' else ' '
      j.line mark (mode = some 'l')
  let forgotten := fun (j : Job) => mode ≠ some 'p' && j.isDone
  let step := fun (acc : List String × List Job) (j : Job) =>
    (line acc.2 j :: acc.1,
      if forgotten j then acc.2.filter (·.number ≠ j.number) else acc.2)
  let (lines, left) := shown.foldl step ([], all)
  say (String.join lines.reverse)
  modify fun s => { s with jobs := left }
  return 0

end CrateGraph.Shell
