import CrateGraph.Path

/-!
# Workspace packages

What the metadata tool reports of a workspace, as far as the project graph needs it: the
packages in the order in which they were reported, each with its manifest, the names of
the packages it depends on and the place it was fetched from.
-/

namespace CrateGraph

/-- A package. -/
structure Package where
  name : String
  /-- The path of its manifest file. -/
  manifestPath : Path
  /-- The names of its declared dependencies, in the order of their declaration. -/
  dependencies : List String
  /-- The registry or repository it was fetched from; none for a package on disk. -/
  source : Option String
deriving DecidableEq, Repr

namespace Package

/-- Whether the package comes from outside of the workspace. -/
def isExternal (p : Package) : Bool :=
  match p.source with
  | none => false
  | some s => s ≠ ""

/-- The directory of the manifest. -/
def manifestDir (p : Package) : Path := (p.manifestPath.parent?).getD (.ofText ".")

end Package

/-- The packages of a workspace, in the order in which they were reported. -/
structure Workspace where
  packages : List Package
deriving DecidableEq, Repr

namespace Workspace

/-- A workspace of which nothing is known. -/
def empty : Workspace := ⟨[]⟩

/-- The packages inside the workspace. -/
def members (w : Workspace) : List Package := w.packages.filter fun p => !p.isExternal

/-- The first package inside the workspace with a name. -/
def member? (w : Workspace) (name : String) : Option Package :=
  w.members.find? fun p => p.name = name

end Workspace

end CrateGraph
