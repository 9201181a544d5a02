import CrateGraph.Process.Clock

/-!
# Bounded runs step by step

`Run.bounded` says what comes of a run of which all times are known. Here none of them is: the
programs of the run, the reader of each stream, the clock and the parent that waits for the child
take turns in any order, and each may pause for as long as it likes. What is decided at a look and
at the end is decided by the same `Limits.verdict` and `Limits.conclude`.

A look is three readings at three moments: first whether the child has ended, then whether a
stream is known to have gone over the budget, and last the clock. Anything may happen in between,
and also between a look and what is done about it.

The readers and the parent share one flag. A reader that took more than the budget raises it when
it is done, and nobody ever takes it down. A reader that cannot say how much it is to read is lost
instead, and the parent learns of it when it asks for what was read.
-/

namespace CrateGraph.Supervision

/-- What the reader of a stream is doing. -/
inductive Reader where
  | reading (taken : Bytes)
  /-- It has read enough, or all there was, and has let go of the stream. -/
  | finished (taken : Bytes)
  /-- It has raised the flag if it had to, and what it took can be had. -/
  | returned (result : Except FileError Bytes)

/-- A stream of the run and its reader. -/
structure Pipe where
  /-- All that was written so far. -/
  written : Bytes
  /-- Whether there is a program that can still write to it. -/
  isOpen : Bool
  reader : Reader

/-- What happens to a stream, and whether the flag is raised. -/
inductive Pipe.Step (budget : UInt64) : Pipe → Bool → Pipe → Prop
  | write {p : Pipe} (bytes : Bytes) (hopen : p.isOpen = true) :
      Step budget p false { p with written := p.written ++ bytes }
  | close {p : Pipe} : Step budget p false { p with isOpen := false }
  /-- The reader takes some of what it has not taken yet. -/
  | read {p : Pipe} {taken : Bytes} {limit : UInt64} (more : Bytes)
      (hlimit : readLimit? budget = some limit) (hreading : p.reader = .reading taken)
      (hmore : taken ++ more <+: p.written) (hlength : (taken ++ more).length ≤ limit.toNat) :
      Step budget p false { p with reader := .reading (taken ++ more) }
  /-- The reader has as much as it may take. -/
  | enough {p : Pipe} {taken : Bytes} {limit : UInt64} (hlimit : readLimit? budget = some limit)
      (hreading : p.reader = .reading taken) (hlength : taken.length = limit.toNat) :
      Step budget p false { p with reader := .finished taken }
  /-- The reader has all, and there will be no more. -/
  | all {p : Pipe} {taken : Bytes} {limit : UInt64} (hlimit : readLimit? budget = some limit)
      (hreading : p.reader = .reading taken) (hclosed : p.isOpen = false)
      (hall : taken = p.written) : Step budget p false { p with reader := .finished taken }
  | fail {p : Pipe} {taken : Bytes} {limit : UInt64} (e : FileError)
      (hlimit : readLimit? budget = some limit) (hreading : p.reader = .reading taken) :
      Step budget p false { p with reader := .returned (.error e) }
  /-- There is no number for how much the reader is to read. -/
  | lose {p : Pipe} {taken : Bytes} (hlimit : readLimit? budget = none)
      (hreading : p.reader = .reading taken) :
      Step budget p false { p with reader := .returned (.error .readerLost) }
  | hand {p : Pipe} {taken : Bytes} (hfinished : p.reader = .finished taken) :
      Step budget p (decide (budget.toNat < taken.length))
        { p with reader := .returned (.ok taken) }

/-- What the parent is doing. -/
inductive Parent where
  /-- The child and the readers are at work, and the deadline is to be found. -/
  | starting
  | looking
  /-- It has seen whether the child ended. -/
  | asked (ended : Option Status)
  /-- It has also seen the flag. -/
  | informed (ended : Option Status) (overflow : Bool)
  | killing
  /-- The child is dead, and the reason for that is to be told. -/
  | choosing
  /-- The child could not be looked at. -/
  | abandoning (e : FileError)
  | joining (status : Status)
  /-- It has what was written to the first stream. -/
  | joiningErr (status : Status) (out : Bytes)
  | returned (outcome : Run.Outcome)
  /-- The clock does not reach the deadline. -/
  | crashed
deriving DecidableEq, Repr

/-- What the parent does after a look. -/
def Parent.ofVerdict : Verdict → Parent
  | .wait => .looking
  | .finish status => .joining status
  | .kill => .killing

/-- A run under way. -/
structure State where
  clock : Instant
  /-- The reading of the clock that the deadline was found from. -/
  since : Instant
  /-- How the child ended, if it has. -/
  child : Option Status
  pipe : Stream → Pipe
  /-- The flag: whether a stream is known to have gone over the budget. -/
  overflow : Bool
  parent : Parent

namespace State

/-- A run at its start. -/
def start (now : Instant) : State where
  clock := now
  since := now
  child := none
  pipe _ := ⟨[], true, .reading []⟩
  overflow := false
  parent := .starting

/-- The run after something happened to one of its streams. -/
def withPipe (s : State) (stream : Stream) (raised : Bool) (p : Pipe) : State :=
  { s with
    pipe := fun t => if t = stream then p else s.pipe t
    overflow := s.overflow || raised }

/-- How many nanoseconds have passed since the deadline was found. -/
def elapsed (s : State) : Nat := s.clock.nanosSince s.since

/-- The run after the child and its group were killed. A child that had ended before keeps its
status. -/
def killed (s : State) : State := { s with child := s.child <|> some (.signaled 9) }

end State

/-- What the parent does in a run with some limits. -/
inductive Acts (l : Limits) : State → State → Prop
  | begin {s : State} {deadline : Option Instant} (h : s.parent = .starting)
      (hdeadline : l.deadline? s.clock = some deadline) :
      Acts l s { s with since := s.clock, parent := .looking }
  | crash {s : State} (h : s.parent = .starting) (hdeadline : l.deadline? s.clock = none) :
      Acts l s { s with parent := .crashed }
  | ask {s : State} (h : s.parent = .looking) : Acts l s { s with parent := .asked s.child }
  | askFailed {s : State} (e : FileError) (h : s.parent = .looking) :
      Acts l s { s with parent := .abandoning e }
  | inform {s : State} {ended : Option Status} (h : s.parent = .asked ended) :
      Acts l s { s with parent := .informed ended s.overflow }
  | decide {s : State} {ended : Option Status} {overflow : Bool}
      (h : s.parent = .informed ended overflow) :
      Acts l s { s with parent := .ofVerdict (l.verdict ⟨ended, overflow, s.elapsed⟩) }
  | kill {s : State} (h : s.parent = .killing) : Acts l s { s.killed with parent := .choosing }
  | choose {s : State} (h : s.parent = .choosing) :
      Acts l s { s with parent := .returned (.stopped (.ofOverflow s.overflow)) }
  | abandon {s : State} {e : FileError} (h : s.parent = .abandoning e) :
      Acts l s { s.killed with parent := .returned (.failed e) }
  | join {s : State} {status : Status} {out : Bytes} (h : s.parent = .joining status)
      (hout : (s.pipe .out).reader = .returned (.ok out)) :
      Acts l s { s with parent := .joiningErr status out }
  | joinFailed {s : State} {status : Status} {e : FileError} (h : s.parent = .joining status)
      (hout : (s.pipe .out).reader = .returned (.error e)) :
      Acts l s { s with parent := .returned (.failed e) }
  | conclude {s : State} {status : Status} {out err : Bytes}
      (h : s.parent = .joiningErr status out)
      (herr : (s.pipe .err).reader = .returned (.ok err)) :
      Acts l s { s with parent := .returned (l.conclude status out err) }
  | joinErrFailed {s : State} {status : Status} {out : Bytes} {e : FileError}
      (h : s.parent = .joiningErr status out)
      (herr : (s.pipe .err).reader = .returned (.error e)) :
      Acts l s { s with parent := .returned (.failed e) }

/-- One step of a run. -/
inductive Step (l : Limits) : State → State → Prop
  | tick {s : State} (reading : Instant) (h : s.clock ≤ reading) :
      Step l s { s with clock := reading }
  | exit {s : State} (status : Status) (h : s.child = none) :
      Step l s { s with child := some status }
  | pipe {s : State} (stream : Stream) {raised : Bool} {p : Pipe}
      (h : (s.pipe stream).Step l.budget raised p) : Step l s (s.withPipe stream raised p)
  | parent {s s' : State} (h : Acts l s s') : Step l s s'

/-- The runs that start at an instant: the states that one went through, the latest first, and the
state that it is in. -/
inductive Reaches (l : Limits) (now : Instant) : List State → State → Prop
  | start : Reaches l now [] (.start now)
  | step {past : List State} {s s' : State} (h : Reaches l now past s) (hstep : Step l s s') :
      Reaches l now (s :: past) s'

/-- Whether a step is the one with which the parent returns. -/
def Returns (s s' : State) (outcome : Run.Outcome) : Prop :=
  (∀ o, s.parent ≠ .returned o) ∧ s'.parent = .returned outcome

end CrateGraph.Supervision
