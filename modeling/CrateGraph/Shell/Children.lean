import CrateGraph.Shell.Session

/-!
# Children of a shell

The shell starts other programs, waits for most of them, and keeps account of the others. A
program that a signal has ended is spoken of when the shell waits for it.
-/

namespace CrateGraph.Shell

/-- What is said of a program that a signal has ended. -/
def signalWords : List String :=
  ["Hangup", "Interrupt", "Quit", "Illegal instruction", "Trace/breakpoint trap", "Aborted",
    "Bus error", "Floating point exception", "Killed", "User defined signal 1",
    "Segmentation fault", "User defined signal 2", "Broken pipe", "Alarm clock", "Terminated",
    "Stack fault", "Child exited", "Continued", "Stopped (signal)", "Stopped",
    "Stopped (tty input)", "Stopped (tty output)", "Urgent I/O condition",
    "CPU time limit exceeded", "File size limit exceeded", "Virtual timer expired",
    "Profiling timer expired", "Window changed", "I/O possible", "Power failure",
    "Bad system call"]

/-- The words for a signal. -/
def wordsOf (n : Nat) : String :=
  if n ≥ 34 then "Real-time signal " ++ toString (n - 34)
  else if n = 0 then "Unknown signal 0"
  else signalWords[n - 1]?.getD ("Unknown signal " ++ toString n)

/-- The status as the number that scripts know. -/
def statusNumber : Status → Nat
  | .exited c => c
  | .signaled n => 128 + n

namespace Job

/-- Whether all programs of a job have ended. -/
def isDone (j : Job) : Bool := j.members.all (·.2.isSome)

/-- The status of a job, which is that of its last program. -/
def status (j : Job) : Nat := ((j.members.getLast?.bind (·.2)).map statusNumber).getD 0

/-- The job after a program has ended. -/
def note (pid : Nat) (status : Status) (j : Job) : Job :=
  { j with members := j.members.map fun m => if m.1 = pid then (pid, some status) else m }

/-- Whether a program belongs to a job and has not ended. -/
def has (j : Job) (pid : Nat) : Bool := j.members.any fun m => m.1 = pid && m.2.isNone

end Job

/-- The first number from some number on that is free, and the jobs that are left. A job for
which the shell has waited gives its number away. -/
def freeNumber : Nat → Nat → List Job → Nat × List Job
  | 0, n, jobs => (n, jobs)
  | steps + 1, n, jobs =>
    match jobs.find? (·.number = n) with
    | none => (n, jobs)
    | some j =>
      if j.isDone && j.waited then (n, jobs.filter (·.number ≠ n))
      else freeNumber steps (n + 1) jobs

/-- Keeps account of programs that were started together, and gives their number. -/
def addJob (pids : List Nat) : Work Nat := do
  let s ← get
  let (n, jobs) := freeNumber (s.jobs.length + 1) 1 s.jobs
  set { s with jobs := ⟨n, pids.map (·, none), false⟩ :: jobs }
  return n

/-- The job with a number. -/
def job? (s : Session) (n : Nat) : Option Job := s.jobs.find? (·.number = n)

/-- Forgets a job. -/
def dropJob (n : Nat) : Work Unit :=
  modify fun s => { s with jobs := s.jobs.filter (·.number ≠ n) }

/-- Takes note of the end of a program. -/
def noteEnd (pid : Nat) (status : Status) : Work Unit :=
  modify fun s =>
    { s with jobs := s.jobs.map fun j => if j.has pid then j.note pid status else j }

/-- Says that a signal has ended a program, unless it is one that users send or that comes
from closed pipes. -/
def tellEnd : Status → Work Unit
  | .exited _ => return ()
  | .signaled n => if n = 2 || n = 13 then return () else complain (wordsOf n ++ "\n")

/-- Waits until a job has ended, or a signal comes of which the shell is told if it may be
interrupted. The result is whether the job has ended. -/
def awaitJob (interruptible : Bool) (number : Nat) : Nat → Work Bool
  | 0 => return true
  | rounds + 1 => do
    match job? (← get) number with
    | none => return true
    | some j =>
      if j.isDone then return true
      else match ← System.wait interruptible with
        | .ended pid status => do
          noteEnd pid status
          if j.has pid then tellEnd status
          awaitJob interruptible number rounds
        | .nobody => return true
        | .interrupted => return false

/-- Waits for a job, and forgets it. The result is its status. -/
def finishJob (number : Nat) : Work Nat := do
  let _ ← awaitJob false number manyRounds
  let status := ((job? (← get) number).map Job.status).getD 0
  dropJob number
  return status

/-- Waits until all programs have ended. The result is whether no signal came before. -/
def awaitAll : Nat → Work Bool
  | 0 => return true
  | rounds + 1 => do
    let s ← get
    if s.jobs.all Job.isDone then
      modify fun s => { s with jobs := s.jobs.map fun j => { j with waited := true } }
      return true
    else match ← System.wait true with
      | .ended pid status => do
        noteEnd pid status
        awaitAll rounds
      | .nobody => return true
      | .interrupted => return false

/-- What a shell that was just started inside another one does first: it does not do for
signals what the other one does, and it has no children. -/
def enterChild : Work Unit := do
  let s ← get
  for (n, action) in s.traps do
    if n ≠ 0 && action ≠ "" then System.react n .default
  set { s with traps := s.traps.filter fun t => t.2 = "", pending := [], jobs := [] }

/-- Runs something as a program of its own and waits for it. The result is its status. -/
def runChild (child : Work Unit) : Work Nat := do
  let pid ← fork child
  let job ← addJob [pid]
  finishJob job

end CrateGraph.Shell
