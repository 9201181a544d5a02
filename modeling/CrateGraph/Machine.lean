import CrateGraph.FileTree

/-!
# The machine

What an operation may look at besides its arguments: the files, the working directory, the
home directory of the user, and the directories in which programs are looked for.
-/

namespace CrateGraph

/-- The machine that an operation runs on. -/
structure Machine where
  tree : FileTree
  /-- The working directory. -/
  cwd : Location
  /-- The home directory of the user. -/
  home : Path
  /-- The directories in which programs are looked for, in that order. -/
  searchPath : List Path

namespace Machine

/-- Whether a path leads anywhere. -/
def pathExists (m : Machine) (p : Path) : Bool := m.tree.pathExists m.cwd p

/-- The contents of a file of text. -/
def readText (m : Machine) (p : Path) : Except FileError String := m.tree.readText m.cwd p

/-- The path of what a path leads to, or the path itself if it leads nowhere. -/
def normalize (m : Machine) (p : Path) : Path := m.tree.normalize m.cwd p

/-- The machine with other files. -/
def withTree (m : Machine) (t : FileTree) : Machine := { m with tree := t }

end Machine

/-- Why a directory could not be made or a file could not be written. -/
inductive WriteError where
  | makeDir (path : Path) (e : FileError)
  | write (path : Path) (e : FileError)
deriving DecidableEq, Repr

/-- The error in words. -/
def WriteError.message : WriteError → String
  | .makeDir path e => "failed to create directory: " ++ path.shown ++ ": " ++ e.message
  | .write path e => "failed to write file: " ++ path.shown ++ ": " ++ e.message

namespace Machine

/-- Something that changes the files of a machine. Where it fails, what it did before
remains. -/
abbrev Change := ExceptT WriteError (StateM Machine)

/-- A change of the files, with its error. -/
def changeTree (c : Location → FileTree.Change Unit) (error : FileError → WriteError) :
    Change Unit := do
  let m ← get
  let (result, t) := (c m.cwd).run m.tree
  set (m.withTree t)
  match result with
  | .ok () => return ()
  | .error e => throw (error e)

/-- Makes a directory, unless its path already leads to something. -/
def ensureDir (p : Path) : Change Unit := do
  if (← get).pathExists p then return ()
  else changeTree (FileTree.makeDirs · p) (.makeDir p)

/-- Writes a text to a file, whose directory is made if need be. -/
def writeText (p : Path) (s : String) : Change Unit := do
  match p.parent? with
  | some dir => ensureDir dir
  | none => return ()
  changeTree (FileTree.write · p (Text.toBytes s)) (.write p)

end Machine

end CrateGraph
