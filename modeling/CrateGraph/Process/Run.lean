import CrateGraph.FileTree

/-!
# What a child program does

Seen from outside, a run of a child program is what it writes to its two streams and how
long it waits in between, and how it ends. A run may also go on writing, or doing nothing,
forever.
-/

namespace CrateGraph

/-- An output stream of a child program. -/
inductive Stream where
  | out
  | err
deriving DecidableEq, Repr

/-- Something that a child program does. -/
inductive Act where
  | write (s : Stream) (bytes : Bytes)
  /-- Waits for so many milliseconds. -/
  | pause (ms : Nat)
  /-- Writes without end. -/
  | flood (s : Stream)
deriving DecidableEq, Repr

/-- The bytes that are written to a stream, as far as they are known. -/
def Act.bytesTo (s : Stream) : Act → Bytes
  | .write t bytes => if t = s then bytes else []
  | _ => []

/-- How a child program ended. -/
inductive Status where
  | exited (code : Nat)
  | signaled (n : Nat)
deriving DecidableEq, Repr

/-- A run of a child program. One without status goes on forever. -/
structure Run where
  acts : List Act
  status : Option Status
  /-- What programs that the child started, and did not wait for, do after its end. -/
  left : List Act
deriving DecidableEq, Repr

/-- The names of signals. -/
def signalNames : List (Nat × String) :=
  [(1, "SIGHUP"), (2, "SIGINT"), (3, "SIGQUIT"), (4, "SIGILL"), (5, "SIGTRAP"),
    (6, "SIGABRT"), (7, "SIGBUS"), (8, "SIGFPE"), (9, "SIGKILL"), (10, "SIGUSR1"),
    (11, "SIGSEGV"), (12, "SIGUSR2"), (13, "SIGPIPE"), (14, "SIGALRM"), (15, "SIGTERM"),
    (16, "SIGSTKFLT"), (17, "SIGCHLD"), (18, "SIGCONT"), (19, "SIGSTOP"), (20, "SIGTSTP"),
    (21, "SIGTTIN"), (22, "SIGTTOU"), (23, "SIGURG"), (24, "SIGXCPU"), (25, "SIGXFSZ"),
    (26, "SIGVTALRM"), (27, "SIGPROF"), (28, "SIGWINCH"), (29, "SIGIO"), (30, "SIGPWR"),
    (31, "SIGSYS")]

namespace Status

/-- Whether the program did what it was asked to do. -/
def success (s : Status) : Bool := s = .exited 0

/-- The exit code, if the program ended by itself. -/
def code? : Status → Option Nat
  | .exited c => some c
  | .signaled _ => none

/-- The status in words. -/
def message : Status → String
  | .exited c => "exit status: " ++ toString c
  | .signaled n =>
    "signal: " ++ toString n
      ++ match signalNames.lookup n with
        | some name => " (" ++ name ++ ")"
        | none => ""

end Status

end CrateGraph
