import CrateGraph.Process.Executable
import CrateGraph.Shell.Session

/-!
# Looking commands up

The name of a command is that of a function, of a command of the shell itself, or of a
program in one of the directories of the variable `PATH`. A name with a slash is the path of
a program.
-/

namespace CrateGraph.Shell

/-- The commands of the shell whose errors do not end it. -/
def plainNames : List String :=
  ["alias", "bg", "cd", "chdir", "command", "echo", "false", "fg", "getopts", "hash", "jobs",
    "kill", "printf", "pwd", "read", "test", "[", "true", "type", "ulimit", "umask", "unalias",
    "wait"]

/-- The commands whose arguments may be assignments. -/
def assigningNames : List String := ["alias", "export", "local", "readonly"]

/-- Whether the shell ends if something is wrong with a command of its own. -/
def isSpecial (name : String) : Bool := name = "local" || specialNames.contains name

/-- Whether a name is that of a command of the shell itself. -/
def isBuiltin (name : String) : Bool := isSpecial name || plainNames.contains name

/-- The directories in which programs are looked for, if nobody has chosen others. -/
def defaultPath : String := "/usr/local/sbin:/usr/local/bin:/usr/sbin:/usr/bin:/sbin:/bin"

/-- The paths that a name may have, given the directories if there are any. -/
def candidates (dirs : Option String) (name : String) : List String :=
  match dirs with
  | none => []
  | some dirs =>
    (dirs.toList.splitOn ':').map fun dir =>
      if dir.isEmpty then name else String.ofList dir ++ "/" ++ name

/-- Whether there is something to run at a path, or why not. -/
def checkProgram (t : FileTree) (cwd : Location) (path : String) : Except FileError Unit := do
  match ← t.stat cwd (pathOf path) with
  | .program _ => return ()
  | .file _ mode => if mode.executable then return () else throw .denied
  | _ => throw .denied

/-- Whether an error means that there is no such file. -/
def isAbsent (e : FileError) : Bool := e = .notFound || e = .notDirectory

/-- The first of some paths where there is something to run, or why there is none. -/
def firstProgram (t : FileTree) (cwd : Location) : FileError → List String →
    Except FileError String
  | e, [] => .error e
  | e, path :: rest =>
    match checkProgram t cwd path with
    | .ok () => .ok path
    | .error e' => firstProgram t cwd (if isAbsent e' then e else e') rest

/-- What the name of a command stands for. -/
inductive Found where
  | function (body : Command)
  | builtin
  /-- A program, under its path. -/
  | program (path : String)
  | missing (e : FileError)

/-- Where programs are looked for. -/
def searchDirs (s : Session) : Option String := s.value? "PATH"

/-- What the name of a command stands for, given where programs are looked for. -/
def look (t : FileTree) (s : Session) (functions : Bool) (dirs : Option String)
    (name : String) : Found :=
  if name.toList.contains '/' then .program name
  else match if functions then s.functions.lookup name else none with
    | some body => .function body
    | none =>
      if isBuiltin name then .builtin
      else match firstProgram t s.cwd .notFound (candidates dirs name) with
        | .ok path => .program path
        | .error e => .missing e

/-- Why something is not run or read, in the words of the shell: `absent` is for what is not
there. -/
def reasonFor (absent : String) (e : FileError) : String :=
  if isAbsent e then absent else e.reason.1

end CrateGraph.Shell
