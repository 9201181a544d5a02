import CrateGraph.FileTree
import CrateGraph.Text.Raw

/-!
# Files that can be run

A file is run by the system itself if it is a program, and by its interpreter if it is a
script whose first line names one. The interpreter may be a script in turn. Paths and
arguments are raw texts.
-/

namespace CrateGraph

namespace FileTree

/-- How many scripts may be the interpreters of one another. -/
def mostInterpreters : Nat := 5

/-- The interpreter that the first line of a script names, and its argument if it has one:
all that follows. -/
def interpreter? (contents : Bytes) : Option (String × Option String) :=
  let isBlank := fun c => c = ' ' || c = '\t'
  match contents with
  | 35 :: 33 :: rest =>
    let line := (Text.raw (rest.takeWhile fun b => b ≠ 10 && b ≠ 0)).toList.dropWhile isBlank
    let path := line.takeWhile fun c => !isBlank c
    let arg := (line.drop path.length).dropWhile isBlank
    let arg := (arg.reverse.dropWhile isBlank).reverse
    if path.isEmpty then none
    else some (String.ofList path, if arg.isEmpty then none else some (String.ofList arg))
  | _ => none

/-- The path of a raw text. -/
def rawPath (s : String) : Path := ⟨Text.unraw s⟩

/-- What is run when the file at a path is run with a list of arguments, the first of which
is a name for it: a program of the system, and its arguments. `steps` bounds the
interpreters. -/
def executable (t : FileTree) (cwd : Location) :
    Nat → String → List String → Except FileError (String × List String)
  | 0, _, _ => .error .tooManyLinks
  | steps + 1, path, args => do
    match ← t.stat cwd (rawPath path) with
    | .program name => return (name, args)
    | .file contents mode =>
      if !mode.executable then throw .denied
      match interpreter? contents with
      | some (interpreter, arg) =>
        executable t cwd steps interpreter (interpreter :: arg.toList ++ path :: args.tail)
      | none => throw .badFormat
    | _ => throw .denied

end FileTree

end CrateGraph
