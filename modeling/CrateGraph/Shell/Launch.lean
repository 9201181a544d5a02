import CrateGraph.Shell.Lookup

/-!
# Becoming another program

A program that is started takes the place of the one that starts it. It knows the arguments
it is given and the variables that are exported, and works in the same directory; all else
of the session is forgotten.

Commands and programs are run by one another, so the functions here and in the modules
after it take what runs either of them as a parameter.
-/

namespace CrateGraph.Shell

/-- What is to be run: a command of a script, or a program of the system. -/
inductive Activity where
  /-- A command, which may be the last one of its shell, and of which it may only be asked
  whether it succeeds. -/
  | command (c : Option Command) (last tested : Bool)
  /-- A program, whose arguments the session knows. -/
  | program (name : String)

/-- Runs commands and programs. -/
abbrev Perform := Activity → Work Unit

/-- The session of a program that was just started with a list of arguments, the first of
which is a name for it. -/
def Session.renewed (args : List String) (s : Session) : Session where
  cwd := s.cwd
  cwdText := s.cwdText
  vars := s.environment.map fun v => { v with fixed := false }
  functions := []
  aliases := []
  documents := []
  nextDocument := 0
  name := args.head?.getD ""
  args := args.tail
  pid := s.pid
  parent := s.parent
  shellPid := s.pid
  background := none
  status := 0
  outputStatus := 0
  line := 1
  builtin := none
  lost := false
  options := []
  traps := []
  pending := []
  keptStatus := none
  jobs := []
  loops := 0
  depth := 0
  locals := []
  optionIndex := 1
  optionPlace := none
  umask := s.umask
  known := []

/-- Ends a program with the status of its session. -/
def finish {α : Type} : Work α := do
  let s ← get
  let ending : System Empty := fun _ => .exit s.status
  ending >>= nofun

/-- Becomes the program at a path, with a list of arguments. There is a result only if that
is not possible. -/
def become (self : Perform) (path : String) (args : List String) : Work FileError := do
  let s ← get
  match (← System.tree).executable s.cwd FileTree.mostInterpreters path args with
  | .error e => return e
  | .ok (program, args) =>
    System.renew
    modify (Session.renewed args)
    toEnd (self (.program program))
    finish

/-- The path of the shell. -/
def shellPath : String := "/bin/sh"

/-- Becomes the program at a path, or a shell that runs the script there. -/
def becomeOrRead (self : Perform) (path : String) (args : List String) : Work FileError := do
  match ← become self path args with
  | .badFormat => become self shellPath (shellPath :: path :: args.tail)
  | e => return e

/-- Becomes the program at the first of some paths where there is one. -/
def becomeFirst (self : Perform) (args : List String) : FileError → List String → Work FileError
  | e, [] => return e
  | e, path :: paths => do
    let e' ← becomeOrRead self path args
    becomeFirst self args (if isAbsent e' then e else e') paths

/-- Becomes the program that a list of arguments names with its first one. -/
def becomeNamed (self : Perform) (dirs : Option String) (args : List String) : Work FileError := do
  let name := args.head?.getD ""
  if name.toList.contains '/' then becomeOrRead self name args
  else becomeFirst self args .notFound (candidates dirs name)

/-- Whether an error means that a program cannot be there at all. -/
def isUnknown (e : FileError) : Bool := isAbsent e || e = .tooManyLinks || e = .nameTooLong

/-- Becomes a program for a shell, or tells why not. -/
def launch (self : Perform) (dirs : Option String) (args : List String) : Work Unit := do
  let e ← becomeNamed self dirs args
  setStatus (if isUnknown e then 127 else 126)
  warn (args.head?.getD "" ++ ": " ++ reasonFor "not found" e)
  modify fun s => { s with keptStatus := none }
  throw .exit

end CrateGraph.Shell
