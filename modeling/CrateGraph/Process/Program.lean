import CrateGraph.Process.World
import CrateGraph.Shell.Start
import CrateGraph.Tool.Catalog

/-!
# The programs of the system at work

The shell runs small programs, and small programs run the shell. Here they come together:
what is run is either a command of a script or a program, and each may run the other, as
deep as they are nested.
-/

namespace CrateGraph

namespace Shell

/-- The programs that are shells. -/
def shellNames : List String := ["dash", "bash"]

/-- The programs of the system. -/
def programNames : List String := Tool.names ++ shellNames

/-- Runs commands and programs that are nested no deeper than some number. -/
def perform : Nat → Perform
  | 0, _ => stall
  | depth + 1, .command c last tested => evaluate (perform depth) c last tested
  | depth + 1, .program name =>
    if shellNames.contains name then runShell (perform depth)
    else (Tool.run? (perform depth) name).getD (return ())

/-- How deep commands and programs may be nested. -/
def deepest : Nat := 1000000

/-- The session of nobody, which works in a directory and knows some variables. -/
def Session.fresh (cwd : Location) (vars : List (String × String)) : Session :=
  Session.renewed []
    { cwd := cwd
      cwdText := ""
      vars := vars.map fun v => ⟨v.1, some v.2, true, false⟩
      functions := []
      aliases := []
      documents := []
      nextDocument := 0
      name := ""
      args := []
      pid := World.firstPid
      parent := World.firstPid - 1
      shellPid := World.firstPid
      background := none
      status := 0
      outputStatus := 0
      line := 1
      builtin := none
      lost := false
      options := []
      traps := []
      pending := []
      keptStatus := none
      jobs := []
      loops := 0
      depth := 0
      locals := []
      optionIndex := 1
      optionPlace := none
      umask := 18
      known := [] }

/-- The task of a program that was started with a list of arguments, the first of which is a
name for it. -/
def programTask (program : String) (args : List String) (s : Session) : Task :=
  taskOf (perform deepest (.program program)) (s.renewed args)

end Shell

end CrateGraph
