import CrateGraph.Process.Run

/-!
# Programs at work

To the system, a program that runs is a task: either it has ended, or it asks for something
and goes on with the answer. A `Task` is that and nothing else, so the system can take turns
between tasks, let one wait, or end it, without knowing what it is about.

Programs are written in the monad `System`, in which what is asked for is a value like any
other.
-/

namespace CrateGraph

/-- What an open stream leads to. -/
inductive Channel where
  /-- To one of the two streams of the whole run. -/
  | outside (s : Stream)
  | file (l : Location)
  | dir
  | device (d : Device)
  | pipe (id : Nat)
deriving DecidableEq, Repr

/-- What a stream is open for. -/
structure Access where
  reads : Bool
  writes : Bool
  /-- Whether all that is written is put at the end. -/
  appends : Bool
deriving DecidableEq, Repr

namespace Access

/-- Open for reading alone. -/
def reading : Access := ⟨true, false, false⟩

/-- Open for writing alone. -/
def writing : Access := ⟨false, true, false⟩

end Access

/-- How a program takes a signal. -/
inductive Reaction where
  /-- As programs do that do not care: most signals end them. -/
  | default
  | ignore
  /-- The program is told of it and does something of its own. -/
  | note
deriving DecidableEq, Repr

/-- What came of waiting for a child program. -/
inductive Waited where
  | ended (pid : Nat) (status : Status)
  /-- There are no children. -/
  | nobody
  /-- A signal came first. -/
  | interrupted
deriving DecidableEq, Repr

/-- A program at work: what it asks the system for, and how it goes on with the answer. -/
inductive Task where
  | exit (status : Nat)
  /-- It does nothing any more, and does not end. -/
  | stall
  /-- It looks at the files and the clock. -/
  | look (next : FileTree → Nat → Task)
  /-- It learns what a number stands for, and how many bytes of a file come before the next
  one. -/
  | stream (fd : Nat) (next : Option (Channel × Nat) → Task)
  /-- It works for itself, as long as it takes to handle so many bytes. -/
  | labor (n : Nat) (next : Unit → Task)
  | change (tree : FileTree) (next : Unit → Task)
  /-- It opens a stream under a number. -/
  | attach (fd : Nat) (channel : Channel) (access : Access) (next : Unit → Task)
  /-- It lets a number stand for what another one stands for, if that is open. -/
  | duplicate (fd source : Nat) (next : Bool → Task)
  | detach (fd : Nat) (next : Unit → Task)
  /-- It makes a pipe and opens its two ends. -/
  | pipe (readEnd writeEnd : Nat) (next : Unit → Task)
  /-- It keeps what its streams lead to. -/
  | keep (next : Unit → Task)
  /-- It has its streams lead again to where they led when that was kept last. -/
  | restore (next : Unit → Task)
  /-- It forgets what was kept last. -/
  | forget (next : Unit → Task)
  /-- It reads some bytes, at most so many, and none after the first one that stops it.
  There are none left if it gets none. -/
  | read (fd most : Nat) (stop : Option UInt8) (next : Except FileError Bytes → Task)
  | write (fd : Nat) (bytes : Bytes) (next : Except FileError Unit → Task)
  /-- It takes back so many bytes that it read from a file. -/
  | unread (fd count : Nat) (next : Unit → Task)
  | sleep (ms : Nat) (next : Unit → Task)
  /-- It starts a child, which learns its own number, and learns that number itself. -/
  | fork (child : Nat → Task) (next : Nat → Task)
  /-- It waits for one of its children to end. A signal that it is told of may come first. -/
  | wait (interruptible : Bool) (next : Waited → Task)
  /-- It sends a signal to a program, or to a group of them if the number is negative, and
  learns whether there is any. -/
  | signal (target : Int) (n : Nat) (next : Bool → Task)
  | react (n : Nat) (reaction : Reaction) (next : Unit → Task)
  | reaction (n : Nat) (next : Reaction → Task)
  /-- It learns which signals have come. -/
  | notes (next : List Nat → Task)
  /-- It begins a group of its own. -/
  | newGroup (next : Unit → Task)
  /-- It becomes another program, which knows nothing of what this one kept and noted. -/
  | renew (next : Unit → Task)

/-- Something that a program does, and that has a result. -/
def System (α : Type) : Type := (α → Task) → Task

namespace System

instance : Monad System where
  pure a := fun next => next a
  bind m f := fun next => m fun a => f a next

/-- Goes on without end and does nothing. -/
def stall {α : Type} : System α := fun _ => .stall

/-- The files. -/
def tree : System FileTree := fun next => .look fun t _ => next t

/-- The time since the first program was started. -/
def clock : System Nat := fun next => .look fun _ ms => next ms

/-- What a number stands for, and how many bytes of a file come before the next one. -/
def stream (fd : Nat) : System (Option (Channel × Nat)) := fun next => .stream fd next

/-- Works as long as it takes to handle so many bytes. -/
def labor (n : Nat) : System Unit := fun next => .labor n next

/-- Replaces the files. -/
def setTree (t : FileTree) : System Unit := fun next => .change t next

/-- Makes a change of the files, of which a part may remain if it fails. -/
def change (c : FileTree.Change Unit) : System (Except FileError Unit) := do
  let (result, t) := c.run (← tree)
  setTree t
  return result

/-- Opens a stream under a number. -/
def attach (fd : Nat) (c : Channel) (a : Access) : System Unit := fun next => .attach fd c a next

/-- Lets a number stand for what another one stands for, if that is open. -/
def duplicate (fd source : Nat) : System Bool := fun next => .duplicate fd source next

/-- Closes a stream. -/
def detach (fd : Nat) : System Unit := fun next => .detach fd next

/-- Makes a pipe and opens its two ends. -/
def pipe (readEnd writeEnd : Nat) : System Unit := fun next => .pipe readEnd writeEnd next

/-- Keeps what the streams lead to. -/
def keep : System Unit := fun next => .keep next

/-- Has the streams lead again to where they led when that was kept last. -/
def restore : System Unit := fun next => .restore next

/-- Forgets what was kept last. -/
def forget : System Unit := fun next => .forget next

/-- Reads at most so many bytes, and none after the first one that stops it. -/
def read (fd most : Nat) (stop : Option UInt8) : System (Except FileError Bytes) :=
  fun next => .read fd most stop next

/-- Writes bytes. -/
def write (fd : Nat) (bytes : Bytes) : System (Except FileError Unit) :=
  fun next => .write fd bytes next

/-- Takes back so many bytes that were read from a file. -/
def unread (fd count : Nat) : System Unit :=
  fun next => .unread fd count next

/-- Waits for so many milliseconds. -/
def sleep (ms : Nat) : System Unit :=
  fun next => .sleep ms next

/-- Waits for a child to end. -/
def wait (interruptible : Bool) : System Waited :=
  fun next => .wait interruptible next

/-- Sends a signal. -/
def signal (target : Int) (n : Nat) : System Bool :=
  fun next => .signal target n next

/-- Chooses how a signal is taken. -/
def react (n : Nat) (r : Reaction) : System Unit :=
  fun next => .react n r next

/-- How a signal is taken. -/
def reaction (n : Nat) : System Reaction :=
  fun next => .reaction n next

/-- The signals that have come. -/
def notes : System (List Nat) := fun next => .notes next

/-- Begins a group of programs. -/
def newGroup : System Unit := fun next => .newGroup next

/-- Becomes another program. -/
def renew : System Unit := fun next => .renew next

end System

end CrateGraph
