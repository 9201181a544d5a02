import CrateGraph.Process.Task
import CrateGraph.Shell.Command
import CrateGraph.Shell.Numeral
import CrateGraph.Text.Raw

/-!
# A running shell

While a script runs, the shell knows a working directory, variables, functions, arguments
and settings. All that it does to the outside it asks the system for. Small programs work in
the same way: they have the same working directory, arguments and variables.

A command goes on with the next one unless something stops it, such as the end of a loop or
of the shell. Texts are raw, with one character for each byte.
-/

namespace CrateGraph.Shell

/-- Why a command is not followed by the next one. -/
inductive Stop where
  /-- So many loops are left. -/
  | leave (loops : Nat)
  /-- All loops but so many are left, and the next round of the one around them begins. -/
  | again (loops : Nat)
  /-- The function or the script that is running ends. -/
  | back
  /-- The shell ends. -/
  | exit
  /-- Something is wrong, and the shell ends unless somebody cares for it. -/
  | wrong
deriving DecidableEq, Repr

/-- A variable, which need not have a value. -/
structure Variable where
  name : String
  value : Option String
  /-- Whether the programs that the shell starts get it too. -/
  exported : Bool
  /-- Whether its value stays. -/
  fixed : Bool
deriving DecidableEq, Repr

/-- Programs that were started together, in the order of a pipeline, and how they ended. -/
structure Job where
  number : Nat
  members : List (Nat × Option Status)
  /-- Whether the shell was told to wait for it, and has done so. -/
  waited : Bool
deriving DecidableEq, Repr

/-- A shell that is running, or another program. -/
structure Session where
  /-- The directory that the program works in, and the path that led there. -/
  cwd : Location
  cwdText : String
  vars : List Variable
  functions : List (String × Command)
  aliases : List (String × String)
  /-- The documents of the scripts that were read, and the number of the next one. -/
  documents : List (Nat × Word)
  nextDocument : Nat
  /-- The name under which the program or its script was started. -/
  name : String
  args : List String
  pid : Nat
  parent : Nat
  /-- The number by which a shell and all the shells inside it know themselves. -/
  shellPid : Nat
  /-- The last program that is not waited for. -/
  background : Option Nat
  /-- The status of the last command. -/
  status : Nat
  /-- The status of the last command whose output became part of a word. -/
  outputStatus : Nat
  /-- The line of the command that is running. -/
  line : Nat
  /-- The command of the shell that is running. -/
  builtin : Option String
  /-- Whether something that a command of the shell wrote was lost. -/
  lost : Bool
  options : List Char
  /-- What is done when signals come, or at the end. -/
  traps : List (Nat × String)
  /-- The signals that have come, and for which nothing has been done yet. -/
  pending : List Nat
  /-- The status that the shell goes on or ends with after what it does for a signal. -/
  keptStatus : Option Nat
  /-- The programs that are not waited for, the last ones first. -/
  jobs : List Job
  /-- The number of loops around the command. -/
  loops : Nat
  /-- The number of functions around the command. -/
  depth : Nat
  /-- The variables that functions around the command have changed for themselves. -/
  locals : List (List (String × Option Variable))
  /-- The number of the argument after the one that has the next option. -/
  optionIndex : Nat
  /-- Where in its argument the next option is, if the argument has more than one. -/
  optionPlace : Option Nat
  umask : Nat
  /-- The programs that the shell has found already, the last ones first. -/
  known : List String

/-- Something that a program does, unless it stops. -/
abbrev Work := ExceptT Stop (StateT Session System)

namespace Session

/-- A variable. -/
def var? (s : Session) (name : String) : Option Variable := s.vars.find? fun v => v.name = name

/-- The value of a variable. -/
def value? (s : Session) (name : String) : Option String := (s.var? name).bind (·.value)

/-- The session in which a variable has changed. -/
def putVar (v : Variable) (s : Session) : Session :=
  { s with vars := v :: s.vars.filter fun w => w.name ≠ v.name }

/-- The session without a variable. -/
def dropVar (name : String) (s : Session) : Session :=
  { s with vars := s.vars.filter fun v => v.name ≠ name }

/-- Whether a setting is on. -/
def has (s : Session) (option : Char) : Bool := s.options.contains option

/-- What a program that is started gets to know of the variables. -/
def environment (s : Session) : List Variable :=
  s.vars.filter fun v => v.exported && v.value.isSome

end Session

/-- The number of rounds that a loop is given, which is more than any run is followed. -/
def manyRounds : Nat := 1000000000

/-! ## Writing and ending -/

/-- Writes a raw text to a stream. -/
def tell (fd : Nat) (s : String) : Work (Except FileError Unit) := System.write fd (Text.unraw s)

/-- Writes a raw text to the stream of errors. -/
def complain (s : String) : Work Unit := do
  let _ ← tell 2 s

/-- Writes what a command of the shell has to say. -/
def say (s : String) : Work Unit := do
  if s ≠ "" then
    match ← tell 1 s with
    | .ok () => return ()
    | .error _ => modify fun s => { s with lost := true }

/-- Sets the status. -/
def setStatus (status : Nat) : Work Unit := modify fun s => { s with status := status }

/-- Tells of something that is wrong in a line, in the name of the shell and the command. -/
def warn (message : String) : Work Unit := do
  let s ← get
  let inName := match s.builtin with
    | some b => b ++ ": "
    | none => ""
  complain (s.name ++ ": " ++ toString s.line ++ ": " ++ inName ++ message ++ "\n")

/-- Tells of something that is wrong, and stops. -/
def refuse {α : Type} (message : String) : Work α := do
  warn message
  setStatus 2
  throw .wrong

/-- Goes on forever and does nothing. -/
def stall {α : Type} : Work α := (System.stall : System Empty) >>= nofun

/-! ## Variables -/

/-- Gives a variable a value, unless it is to stay as it is. -/
def setVar (name value : String) : Work Unit := do
  let s ← get
  let v := (s.var? name).getD ⟨name, none, false, false⟩
  if v.fixed then refuse (name ++ ": is read only")
  else
    set (s.putVar { v with value := some value, exported := v.exported || s.has 'a' })
    if name = "OPTIND" then
      modify fun s =>
        { s with optionIndex := max 1 ((countOf? value).getD 1), optionPlace := none }

/-- Gives a variable a value if its name is one. -/
def assign (name value : String) : Work Unit := do
  if isName name then setVar name value else refuse (name ++ ": bad variable name")

/-- The path of a raw text. -/
def pathOf (s : String) : Path := ⟨Text.unraw s⟩

/-! ## Opening files -/

/-- What may be at a path that is opened. -/
structure Opening where
  access : Access
  /-- Whether the file is made if it is not there. -/
  make : Bool
  /-- Whether the file is emptied. -/
  empty : Bool
  /-- Whether the file must not be there. -/
  fresh : Bool

namespace Opening

/-- To read. -/
def read : Opening := ⟨.reading, false, false, false⟩

/-- To write a new text. -/
def write : Opening := ⟨.writing, true, true, false⟩

/-- To write a new file. -/
def create : Opening := ⟨.writing, true, true, true⟩

/-- To write at the end. -/
def append : Opening := ⟨⟨false, true, true⟩, true, false, false⟩

/-- To read and write. -/
def update : Opening := ⟨⟨true, true, false⟩, true, false, false⟩

end Opening

/-- Opens the stream of a device. -/
def openDevice (fd : Nat) (o : Opening) : Device → Work (Except FileError Unit)
  | .terminal => return .error .noDevice
  | .stream n => do
    if ← System.duplicate fd n then return .ok () else return .error .noDevice
  | d => do
    System.attach fd (.device d) o.access
    return .ok ()

/-- Opens what is at a path under a number. -/
def openPath (fd : Nat) (path : String) (o : Opening) : Work (Except FileError Unit) := do
  let s ← get
  let t ← System.tree
  match t.place (if o.make then .open else .look) s.cwd (pathOf path) with
  | .error e => return .error e
  | .ok (.missing l) =>
    System.setTree (t.put l (.file [] .plain))
    System.attach fd (.file l) o.access
    return .ok ()
  | .ok (.present l) =>
    if o.fresh then return .error .alreadyThere
    else match t.node? l with
      | some .dir =>
        if o.access.writes then return .error .isDirectory
        else
          System.attach fd .dir o.access
          return .ok ()
      | some (.file contents mode) =>
        if (o.access.reads && !mode.readable) || (o.access.writes && !mode.writable) then
          return .error .denied
        else
          if o.empty && !contents.isEmpty then System.setTree (t.put l (.file [] mode))
          System.attach fd (.file l) o.access
          return .ok ()
      | some (.program _) =>
        if o.access.writes then return .error .denied
        else openDevice fd o .null
      | some (.device d) => openDevice fd o d
      | _ => return .error .notFound

/-- The number of bytes after which nobody waits for the end of a stream any more. -/
def mostRead : Nat := 16777216

/-- Reads what is left in a stream until there are so many bytes, after what has been read
already, the last bytes first. The result is whether the end came first, too. -/
def readUpTo (fd most : Nat) : Nat → Nat → List Bytes →
    Work (Except FileError (Bytes × Bool))
  | 0, _, before => return .ok (before.reverse.flatten, false)
  | steps + 1, size, before => do
    if size ≥ most then return .ok (before.reverse.flatten, false)
    else match ← System.read fd 65536 none with
      | .ok [] => return .ok (before.reverse.flatten, true)
      | .ok bytes => readUpTo fd most steps (size + bytes.length) (bytes :: before)
      | .error e => return .error e

/-- All that is left in a stream. One that has no end is waited for in vain. -/
def readAll (fd : Nat) : Work (Except FileError Bytes) := do
  match ← readUpTo fd mostRead manyRounds 0 [] with
  | .ok (bytes, true) => return .ok bytes
  | .ok (_, false) => stall
  | .error e => return .error e

/-- The next line of a stream with its end, or what is left, after what has been read of it
already. -/
def readLineFrom (fd : Nat) : Nat → List Bytes → Work (Except FileError Bytes)
  | 0, _ => return .ok []
  | steps + 1, before => do
    match ← System.read fd 1048576 (some 10) with
    | .ok [] => return .ok before.reverse.flatten
    | .ok bytes =>
      if bytes.getLast? = some 10 then return .ok (bytes :: before).reverse.flatten
      else readLineFrom fd steps (bytes :: before)
    | .error e => return .error e

/-- The next line of a stream with its end, or what is left. -/
def readLine (fd : Nat) : Work (Except FileError Bytes) := readLineFrom fd manyRounds []

/-! ## Programs inside programs -/

/-- What a program does at last, whatever stopped it. -/
def toEnd (w : Work Unit) : Work Unit := do
  try w
  catch _ => return ()

/-- The task of a program that starts with a session. -/
def taskOf (w : Work Unit) (s : Session) : Task := (toEnd w).run s fun (_, s) => .exit s.status

/-- Starts a program, which goes on with the same session, and gives its number. -/
def fork (child : Work Unit) : Work Nat := do
  let s ← get
  let start : System Nat := fun next =>
    .fork (fun pid => taskOf child { s with pid := pid, parent := s.pid }) next
  start

end CrateGraph.Shell
