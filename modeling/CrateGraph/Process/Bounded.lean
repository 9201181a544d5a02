import CrateGraph.Process.Run

/-!
# Bounded runs

A child program is run under two limits: how many bytes it may write to each stream, and
how long it may take. Each stream is read up to one byte past the budget, which is enough
to know that there was too much. The largest budget has no number after it, and the readers
of the streams are lost at once: nothing is read, and the run fails when the child ends.
Every ten milliseconds the child is looked at: first
whether it ended, then whether a stream went over the budget, then whether its time is up.
A child that is still running then is killed, and so is every program that it started.

Whichever is seen first decides, and a stream over the budget is an error even if the child
ended in the meantime. What is returned is never cut off.

What is done at a look (`Limits.verdict`) and at the end (`Limits.conclude`) does not depend
on how the child and its readers take turns; `Run.bounded` is what comes of it for a run of
which the times are known.
-/

namespace CrateGraph

/-- The limits of a run. -/
structure Limits where
  /-- The number of bytes that may be written to each stream. -/
  budget : UInt64
  /-- The number of nanoseconds that the run may take, if there is a limit. -/
  timeout : Option Nat
deriving DecidableEq, Repr

/-- What a run that stayed within its limits produced. -/
structure Output where
  status : Status
  out : Bytes
  err : Bytes
deriving DecidableEq, Repr

/-- Why a run was stopped. -/
inductive Stopped where
  | outputLimit
  | timeout
deriving DecidableEq, Repr

/-- What comes of a run. -/
inductive Run.Outcome where
  | output (o : Output)
  | stopped (why : Stopped)
  /-- The child could not be looked at, or a stream could not be read. -/
  | failed (e : FileError)
deriving DecidableEq, Repr

/-- How many bytes are read from a stream: one more than the budget, if there is a number for
that. A reader for which there is none is lost before it reads anything. -/
def readLimit? (budget : UInt64) : Option UInt64 :=
  if budget = 18446744073709551615 then none else some (budget + 1)

/-! ## Decisions -/

/-- What is seen of a child at a look. -/
structure Look where
  /-- How the child ended, if it has. -/
  ended : Option Status
  /-- Whether a stream is known to have gone over the budget. -/
  overflow : Bool
  /-- How many nanoseconds the child has been running. -/
  clock : Nat
deriving DecidableEq, Repr

/-- What is done after a look. -/
inductive Verdict where
  | wait
  /-- The child has ended, and what it wrote is read to the end. -/
  | finish (status : Status)
  /-- The child is killed. -/
  | kill
deriving DecidableEq, Repr

/-- Why a child was killed, by what is known of its streams. -/
def Stopped.ofOverflow (overflow : Bool) : Stopped := if overflow then .outputLimit else .timeout

namespace Limits

/-- Whether the time is up. -/
def isUp (l : Limits) (clock : Nat) : Bool := l.timeout.any (· ≤ clock)

/-- What is done after a look. -/
def verdict (l : Limits) (look : Look) : Verdict :=
  match look.ended with
  | some status => .finish status
  | none => if look.overflow || l.isUp look.clock then .kill else .wait

/-- What comes of a child that has ended, and of which the streams were read. -/
def conclude (l : Limits) (status : Status) (out err : Bytes) : Run.Outcome :=
  if l.budget.toNat < out.length || l.budget.toNat < err.length then .stopped .outputLimit
  else .output ⟨status, out, err⟩

end Limits

/-! ## Times

A child does what it does at whole milliseconds. -/

/-- The number of nanoseconds of a millisecond. -/
def nanosPerMilli : Nat := 1000000

/-- How many milliseconds pass between two looks at the child. -/
def pollInterval : Nat := 10

/-- The time of the first look at the child at or after a time. -/
def pollAt (ms : Nat) : Nat := (ms + pollInterval - 1) / pollInterval * pollInterval

/-- The time of the first look that can see what happened at a time. Nothing has happened
yet at the very first one. -/
def seenAt (ms : Nat) : Nat := max pollInterval (pollAt ms)

/-- The time of the first look at which so many nanoseconds have passed. -/
def upAt (ns : Nat) : Nat := pollAt ((ns + nanosPerMilli - 1) / nanosPerMilli)

/-- Whether what is read of a stream to which so many bytes were written goes over the
budget. -/
def overBudget (budget : UInt64) (size : Nat) : Bool :=
  (readLimit? budget).any fun limit => budget.toNat < min size limit.toNat

/-- What was seen of a run up to some time. -/
structure Watched where
  /-- In milliseconds. -/
  clock : Nat
  /-- The number of bytes that were written to each stream. -/
  outSize : Nat
  errSize : Nat
  /-- When a stream went over the budget. -/
  overflow : Option Nat
deriving DecidableEq, Repr

namespace Watched

/-- Notes that a stream has gone over the budget, if it has and had not before. -/
def check (budget : UInt64) (w : Watched) : Watched :=
  if w.overflow.isNone && (overBudget budget w.outSize || overBudget budget w.errSize) then
    { w with overflow := some w.clock }
  else w

/-- Watches something that the child does. -/
def act (budget : UInt64) (w : Watched) : Act → Watched
  | .write .out bytes => check budget { w with outSize := w.outSize + bytes.length }
  | .write .err bytes => check budget { w with errSize := w.errSize + bytes.length }
  | .pause ms => { w with clock := w.clock + ms }
  | .flood _ =>
    if (readLimit? budget).isNone then w else { w with overflow := w.overflow <|> some w.clock }

/-- Watches some things that the child does. -/
def acts (budget : UInt64) (w : Watched) (as : List Act) : Watched := as.foldl (act budget) w

/-- Watches a child from its start. -/
def start : Watched := ⟨0, 0, 0, none⟩

end Watched

namespace Run

/-- The time at which the end of the child is seen, if it ends. -/
def endSeen (r : Run) (w : Watched) : Option Nat := r.status.map fun _ => seenAt w.clock

/-- What is seen of a child at a time. -/
def lookAt (r : Run) (w : Watched) (clock : Nat) : Look where
  ended := if (r.endSeen w).any (· ≤ clock) then r.status else none
  overflow := (w.overflow.map seenAt).any (· ≤ clock)
  clock := clock * nanosPerMilli

/-- The time of the first look after which something is done, if there is one. -/
def decisive (r : Run) (w : Watched) (l : Limits) : Option Nat :=
  ([r.endSeen w, w.overflow.map seenAt, l.timeout.map upAt].filterMap id).min?

/-- All that is written to a stream in a run, also after the end of the child. -/
def written (r : Run) (s : Stream) : Bytes := (r.acts ++ r.left).flatMap (Act.bytesTo s)

/-- What comes of a child that has ended: its streams are read to their ends, which programs
that it left behind can put off. -/
def finished (r : Run) (l : Limits) (w : Watched) (status : Status) : Outcome :=
  match readLimit? l.budget with
  | none => .failed .readerLost
  | some limit =>
    if (Watched.acts l.budget w r.left).overflow.isSome then .stopped .outputLimit
    else
      l.conclude status ((r.written .out).take limit.toNat) ((r.written .err).take limit.toNat)

/-- Runs a child under limits. Once it has ended there is no more limit of time. A run that
goes on forever without either limit being hit would never return, and counts as timed
out. -/
def bounded (r : Run) (l : Limits) : Outcome :=
  let w := Watched.acts l.budget .start r.acts
  match r.decisive w l with
  | none => .stopped .timeout
  | some clock =>
    let look := r.lookAt w clock
    match l.verdict look with
    | .finish status => r.finished l w status
    | .kill => .stopped (.ofOverflow look.overflow)
    | .wait => .stopped .timeout

end Run

end CrateGraph
