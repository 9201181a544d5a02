import CrateGraph.Path

/-!
# File trees

A file tree holds everything that a path can lead to: directories, files, links to other
paths, and the programs and devices of the system. An entry is known by its location, the names that
lead to it from the root directory; a path is looked up one segment at a time, and links
are followed on the way.

Every operation is a function of the tree. One that changes it gives the new tree, or the
reason why nothing was changed.
-/

namespace CrateGraph

/-- Why something could not be done with a file. -/
inductive FileError where
  | notFound
  | denied
  | alreadyThere
  | notDirectory
  | isDirectory
  | notEmpty
  | nameTooLong
  | tooManyLinks
  | badFormat
  /-- There is no stream of that number, or it is not open for what is asked of it. -/
  | badStream
  | noDevice
  | noSpace
  | invalid
  /-- Nobody reads what is written. -/
  | brokenPipe
  | notText
  | zeroInName
  | zeroInArgument
  | noParent
  /-- What reads a stream has come to an end of its own. -/
  | readerLost
deriving DecidableEq, Repr

/-- The error in words, with its number if the system has one for it. -/
def FileError.reason : FileError → String × Option Nat
  | .notFound => ("No such file or directory", some 2)
  | .noDevice => ("No such device or address", some 6)
  | .badFormat => ("Exec format error", some 8)
  | .badStream => ("Bad file descriptor", some 9)
  | .denied => ("Permission denied", some 13)
  | .alreadyThere => ("File exists", some 17)
  | .notDirectory => ("Not a directory", some 20)
  | .isDirectory => ("Is a directory", some 21)
  | .invalid => ("Invalid argument", some 22)
  | .noSpace => ("No space left on device", some 28)
  | .brokenPipe => ("Broken pipe", some 32)
  | .nameTooLong => ("File name too long", some 36)
  | .notEmpty => ("Directory not empty", some 39)
  | .tooManyLinks => ("Too many levels of symbolic links", some 40)
  | .notText => ("stream did not contain valid UTF-8", none)
  | .zeroInName => ("file name contained an unexpected NUL byte", none)
  | .zeroInArgument => ("nul byte found in provided data", none)
  | .noParent => ("failed to create whole tree", none)
  | .readerLost => ("output reader thread panicked", none)

/-- The error as it is told. -/
def FileError.message (e : FileError) : String :=
  match e.reason with
  | (text, some n) => text ++ " (os error " ++ toString n ++ ")"
  | (text, none) => text

/-- A file that is kept nowhere. -/
inductive Device where
  /-- Nothing can be read, and what is written is lost. -/
  | null
  /-- Zeros can be read without end. -/
  | zero
  /-- What is written does not fit. -/
  | full
  /-- Bytes that nobody can foretell can be read without end. -/
  | noise
  /-- There is none. -/
  | terminal
  /-- A stream of whoever opens it. -/
  | stream (n : Nat)
deriving DecidableEq, Repr

/-- What those who use a machine may do with a file. -/
structure Mode where
  readable : Bool
  writable : Bool
  executable : Bool
deriving DecidableEq, Repr

namespace Mode

/-- The mode of a file that was just made. -/
def plain : Mode := ⟨true, true, false⟩

/-- The mode of a file that can also be run. -/
def runnable : Mode := ⟨true, true, true⟩

end Mode

/-- What can be at a location. -/
inductive FileNode where
  | dir
  | file (contents : Bytes) (mode : Mode)
  | link (target : Path)
  /-- A program of the system, known by its name. -/
  | program (name : String)
  | device (d : Device)
deriving DecidableEq, Repr

/-- Whether there is a link. -/
def FileNode.isLink : FileNode → Bool
  | .link _ => true
  | _ => false

/-- The names that lead to an entry from the root directory. -/
abbrev Location := List Bytes

/-- A tree of files. The root directory is always there. -/
structure FileTree where
  nodes : List (Location × FileNode)
deriving Repr

/-- What a path is looked up for, which decides what its last name may be. -/
inductive Purpose where
  /-- For what is there. -/
  | look
  /-- For what is there, be it a link. -/
  | lookAtLink
  /-- For a new entry, under a name that leads to nothing, not even a link. -/
  | make
  /-- For a file, which is made if it is not there. -/
  | open
deriving DecidableEq, Repr

/-- Where a path leads. -/
inductive Place where
  | present (location : Location)
  /-- Nowhere yet, though its directory is there. -/
  | missing (location : Location)
deriving DecidableEq, Repr

namespace FileTree

/-- The location to which names that are text lead. -/
def locationOf (names : List String) : Location := names.map Text.toBytes

/-- The tree that holds the root directory only. -/
def empty : FileTree := ⟨[]⟩

/-- What is at a location. -/
def node? (t : FileTree) (l : Location) : Option FileNode :=
  if l = [] then some .dir else t.nodes.lookup l

/-- Whether there is a directory at a location. -/
def isDirAt (t : FileTree) (l : Location) : Bool := t.node? l = some .dir

/-- The tree with something else at a location. -/
def put (t : FileTree) (l : Location) (n : FileNode) : FileTree :=
  ⟨(l, n) :: t.nodes.filter fun e => e.1 ≠ l⟩

/-- The number of bytes that a name may have. -/
def longestName : Nat := 255

/-- The number of bytes that a path may have. -/
def longestPath : Nat := 4095

/-- The number of links that a path may lead through. -/
def mostLinks : Nat := 40

/-- What is done with a name that comes last and leads to something. A slash may follow it. -/
inductive LastName where
  | refuse (e : FileError)
  | stay
  | goOn
deriving DecidableEq, Repr

/-- What is done with a name that leads to something, by what follows it. -/
def lastName (purpose : Purpose) (isLink : Bool) (rest : List Bytes) : LastName :=
  if rest.any (· ≠ []) then .goOn
  else match purpose with
    | .look => .goOn
    | .lookAtLink => if isLink && rest.isEmpty then .stay else .goOn
    | .make => .stay
    | .open => if rest.isEmpty then .goOn else .refuse .isDirectory

/-- What becomes of a path whose name leads to nothing, by what follows the name. -/
def missingName (purpose : Purpose) (l : Location) (rest : List Bytes) : Except FileError Place :=
  if rest.any (· ≠ []) then .error .notFound
  else match purpose with
    | .look | .lookAtLink => .error .notFound
    | .make => .ok (.missing l)
    | .open => if rest.isEmpty then .ok (.missing l) else .error .isDirectory

/-- Follows segments from a location. -/
def follow (t : FileTree) (purpose : Purpose) (links : Nat) (l : Location)
    (segments : List Bytes) : Except FileError Place :=
  match segments with
  | [] => .ok (.present l)
  | s :: rest =>
    if !t.isDirAt l then .error .notDirectory
    else if Path.isIdle s then follow t purpose links l rest
    else if s = Path.dots then follow t purpose links l.dropLast rest
    else if s.length > longestName then .error .nameTooLong
    else match t.node? (l ++ [s]) with
      | none => missingName purpose (l ++ [s]) rest
      | some node =>
        match lastName purpose node.isLink rest, node with
        | .refuse e, _ => .error e
        | .stay, _ => .ok (.present (l ++ [s]))
        | .goOn, .link target =>
          match links with
          | 0 => .error .tooManyLinks
          | links + 1 =>
            follow t purpose links (if target.isAbsolute then [] else l) (target.segments ++ rest)
        | .goOn, _ => follow t purpose links (l ++ [s]) rest
termination_by (links, segments.length)

/-- Looks a path up from a directory. -/
def place (t : FileTree) (purpose : Purpose) (cwd : Location) (p : Path) :
    Except FileError Place :=
  if p.bytes = [] then .error .notFound
  else if p.bytes.contains 0 then .error .zeroInName
  else if p.bytes.length > longestPath then .error .nameTooLong
  else t.follow purpose mostLinks (if p.isAbsolute then [] else cwd) p.segments

/-- The location that a path leads to. -/
def locate (t : FileTree) (cwd : Location) (p : Path) : Except FileError Location := do
  match ← t.place .look cwd p with
  | .present l => return l
  | .missing _ => throw .notFound

/-- What a path leads to. -/
def stat (t : FileTree) (cwd : Location) (p : Path) : Except FileError FileNode := do
  let l ← t.locate cwd p
  match t.node? l with
  | some n => return n
  | none => throw .notFound

/-- Whether a path leads anywhere. -/
def pathExists (t : FileTree) (cwd : Location) (p : Path) : Bool := (t.locate cwd p).isOk

/-- Whether a path leads to a directory. -/
def isDir (t : FileTree) (cwd : Location) (p : Path) : Bool :=
  match t.stat cwd p with
  | .ok .dir => true
  | _ => false

/-- The path of a location. -/
def pathOf (l : Location) : Path := ⟨Path.slash :: [Path.slash].intercalate l⟩

/-- The path of what a path leads to, without links, `.` and `..`. -/
def canonical (t : FileTree) (cwd : Location) (p : Path) : Except FileError Path :=
  (t.locate cwd p).map pathOf

/-- The path of what a path leads to, or the path itself if it leads nowhere. -/
def normalize (t : FileTree) (cwd : Location) (p : Path) : Path :=
  match t.canonical cwd p with
  | .ok q => q
  | .error _ => p

/-- The contents of a file. -/
def read (t : FileTree) (cwd : Location) (p : Path) : Except FileError Bytes := do
  match ← t.stat cwd p with
  | .file contents mode => if mode.readable then return contents else throw .denied
  | .dir => throw .isDirectory
  | _ => return []

/-- The contents of a file of text. -/
def readText (t : FileTree) (cwd : Location) (p : Path) : Except FileError String := do
  let bytes ← t.read cwd p
  match Text.ofBytes? bytes with
  | some s => return s
  | none => throw .notText

/-! ### Changes

What changes a tree may fail after part of the work is done, and that part remains. -/

/-- A change of a tree that may fail. -/
abbrev Change := ExceptT FileError (StateM FileTree)

/-- Makes a directory. -/
def makeDir (cwd : Location) (p : Path) : Change Unit := do
  match ← (← get).place .make cwd p with
  | .present _ => throw .alreadyThere
  | .missing l => modify (·.put l .dir)

/-- Makes a directory for which the directories around it were made before. -/
def makeDirAgain (cwd : Location) (p : Path) : Change Unit := do
  try makeDir cwd p
  catch e =>
    if (← get).isDir cwd p then return ()
    else throw e

/-- Makes the first of a list of directories, and before that the others if it lies in a
directory that is not there. -/
def makeFirst (cwd : Location) : List Path → Change Unit
  | [] => throw .noParent
  | p :: parents =>
    if p.bytes = [] then return ()
    else do
      try makeDir cwd p
      catch
        | .notFound => do
          makeFirst cwd parents
          makeDirAgain cwd p
        | e => if (← get).isDir cwd p then return () else throw e

/-- Makes a directory and those around it that are not there. -/
def makeDirs (cwd : Location) (p : Path) : Change Unit := makeFirst cwd p.ancestors

/-- Puts contents into a file, which is made if it is not there. -/
def write (cwd : Location) (p : Path) (contents : Bytes) : Change Unit := do
  let t ← get
  match ← t.place .open cwd p with
  | .missing l => set (t.put l (.file contents .plain))
  | .present l =>
    match t.node? l with
    | some .dir => throw .isDirectory
    | some (.file _ mode) =>
      if mode.writable then set (t.put l (.file contents mode)) else throw .denied
    | _ => return ()

/-- The names in a directory. -/
def namesIn (t : FileTree) (dir : Location) : List Bytes :=
  t.nodes.filterMap fun e => if e.1.dropLast = dir then e.1.getLast? else none

/-- The tree without what is at a location, and below it. -/
def without (t : FileTree) (l : Location) : FileTree :=
  ⟨t.nodes.filter fun e => !l.isPrefixOf e.1⟩

/-- Makes a link. -/
def makeLink (cwd : Location) (p target : Path) : Change Unit := do
  match ← (← get).place .make cwd p with
  | .present _ => throw .alreadyThere
  | .missing l => modify (·.put l (.link target))

/-- The tree after a change, or what there is of it. -/
def after (t : FileTree) (c : Change Unit) : FileTree := (c.run t).2

/-- Puts something at a path, and makes the directories around it that are not there. A file
that is there already keeps its mode if nothing is asked for but the mode of a new one. What
cannot be put there is left out. -/
def plant (t : FileTree) (p : Path) (n : FileNode) : FileTree :=
  let around := match p.parent? with
    | some dir => t.after (makeDirs [] dir)
    | none => t
  match n with
  | .dir => t.after (makeDirs [] p)
  | .link target => around.after (makeLink [] p target)
  | .file contents mode =>
    let t := around.after (write [] p contents)
    match t.locate [] p with
    | .ok l => if mode = .plain then t else t.put l n
    | .error _ => t
  | _ => t

end FileTree

end CrateGraph
