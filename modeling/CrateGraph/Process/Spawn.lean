import CrateGraph.Machine
import CrateGraph.Process.Bounded
import CrateGraph.Process.Program

/-!
# Starting programs

A program is started in a directory, under its path or, if it is a name without slash, from
the first directory of the search path that has it. What it then does is a `Run`, and it
may change the files.

The working directory is entered first, so a path that is not absolute is one from there.
-/

namespace CrateGraph

/-- A program to be started. -/
structure Invocation where
  program : Path
  args : List String
  /-- The directory to start it in, if not the working directory. -/
  dir : Option Path
deriving DecidableEq, Repr

/-- The program and its arguments, as they are shown. -/
def Invocation.display (c : Invocation) : String := Text.join " " (c.program.shown :: c.args)

/-- The first of some paths that can be started. One that may not be is worse than one that
is not there. -/
def firstStartable {α : Type} (check : Path → Except FileError α) (worst : FileError) :
    List Path → Except FileError α
  | [] => .error worst
  | p :: rest =>
    match check p with
    | .ok found => .ok found
    | .error .denied => firstStartable check .denied rest
    | .error .notFound => firstStartable check worst rest
    | .error .notDirectory => firstStartable check worst rest
    | .error e => .error e

namespace Machine

/-- What is started for a program: a program of the system, and its arguments. -/
def findProgram (m : Machine) (cwd : Location) (program : Path) (args : List String) :
    Except FileError (String × List String) :=
  let args := Text.raw program.bytes :: args.map Text.rawOf
  let check := fun (p : Path) =>
    m.tree.executable cwd FileTree.mostInterpreters (Text.raw p.bytes) args
  if program.bytes = [] then .error .notFound
  else if program.bytes.contains Path.slash then check program
  else if program.bytes.length > FileTree.longestName then .error .nameTooLong
  else firstStartable check .notFound (m.searchPath.map (·.join program))

/-- What programs that are started know: the home directory and where programs are. -/
def environment (m : Machine) : List (String × String) :=
  [("PATH", Text.join ":" (m.searchPath.map fun dir => Text.raw dir.bytes)),
    ("HOME", Text.raw m.home.bytes)]

/-- The number of steps after which a program is no longer followed. -/
def mostSteps : Nat := 1500000

/-- The labor after which a program is no longer followed. -/
def mostLabor : Nat := 41943040

/-- The number of bytes of output after which a program is no longer followed, whatever its
limits are. -/
def mostOutput : Nat := 33554432

/-- How far a program is followed that is run under limits. -/
def horizon (l : Limits) : Horizon :=
  ⟨min l.budget.toNat mostOutput, l.timeout.map fun ns => ns / nanosPerMilli + pollInterval,
    mostLabor⟩

/-- Starts a program that is run under limits, and that may change the files. -/
def spawn (m : Machine) (c : Invocation) (l : Limits) : Except FileError (Run × Machine) := do
  if c.program.bytes.contains 0 || c.args.any fun a => a.toList.contains '\x00' then
    throw .zeroInArgument
  let cwd ← match c.dir with
    | none => pure m.cwd
    | some dir =>
      let l ← m.tree.locate m.cwd dir
      if m.tree.isDirAt l then pure l else throw .notDirectory
  let (program, args) ← m.findProgram cwd c.program c.args
  let task := Shell.programTask program args (.fresh cwd m.environment)
  let world := (World.start m.tree task (readLimit? l.budget).isSome).follow (horizon l) mostSteps
  return (world.toRun, m.withTree world.tree)

end Machine

end CrateGraph
