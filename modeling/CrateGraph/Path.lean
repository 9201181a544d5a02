import CrateGraph.Text.Utf8

/-!
# Paths

A path is kept as it was written, because it is used and shown as it was written. It is a
list of bytes, which need not be text: it is shown with a replacement character for each
malformed piece. What it means is the list of its components: repeated and trailing slashes
and inner `.` segments mean nothing, a `.` at the very start of a relative path is a
component of its own, and `..` is kept. Two paths are `Same` when their components are equal.
-/

namespace CrateGraph

/-- One step of a path. -/
inductive Component where
  /-- The slash that an absolute path starts with. -/
  | root
  /-- A `.` at the start of a relative path. -/
  | here
  /-- A `..` segment. -/
  | up
  /-- A named entry of a directory. -/
  | name (bytes : Bytes)
deriving DecidableEq, Repr

/-- A path as it was written. -/
structure Path where
  bytes : Bytes
deriving DecidableEq, Repr

namespace Path

/-- The path that a text is. -/
def ofText (s : String) : Path := ⟨Text.toBytes s⟩

/-- The text that the path is, if it is one. -/
def text? (p : Path) : Option String := Text.ofBytes? p.bytes

/-- The text that the path is shown as. -/
def shown (p : Path) : String := Text.shown p.bytes

/-- The byte between two segments. -/
def slash : UInt8 := 0x2f

/-- The segment `.`. -/
def dot : Bytes := [0x2e]

/-- The segment `..`. -/
def dots : Bytes := [0x2e, 0x2e]

/-- Whether the path starts at the root directory. -/
def isAbsolute (p : Path) : Bool := p.bytes.head? == some slash

/-- What stands before, between and after the slashes. -/
def segments (p : Path) : List Bytes := p.bytes.splitOn slash

/-- The path that has these segments. -/
def ofSegments (segments : List Bytes) : Path := ⟨[slash].intercalate segments⟩

/-- Whether a segment means nothing where it is not the first of a relative path. -/
def isIdle (segment : Bytes) : Bool := segment = [] || segment = dot

/-- The component that a segment stands for, where it is not the first of a relative path. -/
def component? (segment : Bytes) : Option Component :=
  if isIdle segment then none
  else if segment = dots then some .up
  else some (.name segment)

/-- The steps of the path. -/
def components (p : Path) : List Component :=
  match p.segments with
  | [] => []
  | first :: rest =>
    if p.isAbsolute then .root :: rest.filterMap component?
    else if first = dot then .here :: rest.filterMap component?
    else (first :: rest).filterMap component?

/-- Two paths that take the same steps. -/
def Same (p q : Path) : Prop := p.components = q.components

instance : DecidableRel Same := fun p q =>
  inferInstanceAs (Decidable (p.components = q.components))

/-- The path of an entry below a directory. An absolute entry is that entry itself. -/
def join (dir entry : Path) : Path :=
  if entry.isAbsolute || dir.bytes = [] then entry
  else if dir.bytes.getLast? == some slash then ⟨dir.bytes ++ entry.bytes⟩
  else ⟨dir.bytes ++ slash :: entry.bytes⟩

/-- The path without its last component, as far as it is written before it. The root and
the empty path have none. -/
def parent? (p : Path) : Option Path :=
  match p.segments with
  | [] => none
  | first :: rest =>
    match rest.reverse.dropWhile isIdle with
    | _ :: before =>
      match (before.dropWhile isIdle).reverse with
      | [] => some ⟨if p.isAbsolute then [slash] else first⟩
      | kept => some (ofSegments (first :: kept))
    | [] => if first = [] then none else some ⟨[]⟩

/-- The path and what `parent?` gives from it, at most `n` times. -/
def ancestorsWithin : Nat → Path → List Path
  | 0, p => [p]
  | n + 1, p =>
    match p.parent? with
    | none => [p]
    | some q => p :: ancestorsWithin n q

/-- The path, its parent, the parent of that, and so on. Each step takes a segment away, so
there are no more than segments. -/
def ancestors (p : Path) : List Path := ancestorsWithin (p.segments.length + 1) p

end Path

end CrateGraph
