import CrateGraph.Path
import CrateGraph.Text.Basic

/-!
# Paths relative to a workspace

The project graph names files by their path from the workspace root, written with forward
slashes. The walk from one directory to another is a list of components: up out of the
base as far as the two part ways, then down to the target.

What is written is text. A name that is none is written as it is shown, so two names may be
written alike.

A path that cannot be reached from the base is given as itself. That is so when the base
is relative and the path is not, and when the base holds a `..` past the point where the
two part ways: what lies below it is not known from its text.
-/

namespace CrateGraph.Path

/-- The walk from a base to a path, both given by their components. `parted` says that a
step was already taken, after which equal components are no longer passed over. -/
def walk (parted : Bool) : List Component → List Component → Option (List Component)
  | [], [] => some []
  | a :: as, [] => some (a :: as)
  | [], _ :: bs => (walk true [] bs).map (.up :: ·)
  | a :: as, b :: bs =>
    if !parted && a = b then walk false as bs
    else if b = .here then (walk true as bs).map (a :: ·)
    else if b = .up then none
    else some (.up :: (bs.map fun _ => .up) ++ a :: as)

/-- The walk from a base to a path, if there is one. -/
def walkFrom? (path base : Path) : Option (List Component) :=
  if path.isAbsolute != base.isAbsolute then
    if path.isAbsolute then some path.components else none
  else walk false path.components base.components

/-- The segment that a component is written as; a `.` is not written. -/
def segment? : Component → Option String
  | .root => some ""
  | .here => none
  | .up => some ".."
  | .name bytes => some (Text.shown bytes)

/-- Components written with a slash between each two. -/
def slashed (cs : List Component) : String := Text.join "/" (cs.filterMap segment?)

/-- A path with single slashes only, and without `.` segments and a slash at its end. -/
def toSlash (p : Path) : String := slashed p.components

/-- A path as it is written from a base: `.` for the base itself. -/
def relativeTo (path base : Path) : String :=
  let written := slashed ((walkFrom? path base).getD path.components)
  if written = "" then "." else written

/-- The path of an entry below a root that was itself written by `relativeTo`. -/
def joinRoot (root entry : String) : String :=
  if root = "." || root = "" then entry else root ++ "/" ++ entry

end CrateGraph.Path
