import CrateGraph.Value

/-!
# The tree of TOML sections

A table may be spread over a text: a header may come before or after that of a table
around it, and dotted keys make tables of their own. A table may not be defined twice,
though, and one that was made by dotted keys, or written inline, may not be added to in
another way.

Entries are kept in the order in which they were made. A table that was first made by a
header below it moves to the end when its own header comes.
-/

namespace CrateGraph.Toml

/-- What a key leads to while the tree is made. -/
inductive Item where
  /-- A value, to which nothing can be added. -/
  | value (v : Value)
  /-- A table. It is implicit when no header of its own came yet, and dotted when it was
  made by a dotted key. -/
  | table (implicit dotted : Bool) (entries : List (String × Item))
  /-- The tables of an array, the last one last. -/
  | tables (elements : List (List (String × Item)))

/-- The entries of a table while the tree is made. -/
abbrev Items := List (String × Item)

mutual

/-- The tree of an item. -/
def Item.toValue : Item → Value
  | .value v => v
  | .table _ _ entries => .table (entryValues entries)
  | .tables elements => .list (elementValues elements)

/-- The trees of entries. -/
def entryValues : List (String × Item) → List (String × Value)
  | [] => []
  | (k, i) :: rest => (k, i.toValue) :: entryValues rest

/-- The trees of the tables of an array. -/
def elementValues : List (List (String × Item)) → List Value
  | [] => []
  | entries :: rest => .table (entryValues entries) :: elementValues rest

end

/-- Changes what a key leads to, where it stands, or adds the key at the end. -/
def update (key : String) (f : Option Item → Option Item) : Items → Option Items
  | [] => (f none).map fun i => [(key, i)]
  | (k, i) :: rest =>
    if k = key then (f (some i)).map fun i' => (k, i') :: rest
    else (update key f rest).map ((k, i) :: ·)

/-- Changes the last table of an array. -/
def updateLast (f : Items → Option Items) : List Items → Option (List Items)
  | [] => none
  | [last] => (f last).map ([·])
  | first :: rest => (updateLast f rest).map (first :: ·)

/-- Adds a pair to a table. `dotted` tells of the table, and `within` of the key, that a
dotted key led here: a table made otherwise is not added to by a dotted key. -/
def addPair (dotted within : Bool) (v : Value) : List String → Items → Option Items
  | [], _ => none
  | [key], entries =>
    if dotted = within then
      update key (fun | none => some (.value v) | some _ => none) entries
    else none
  | key :: path, entries =>
    update key
      (fun
        | none => (addPair true true v path []).map (.table true true)
        | some (.value _) => none
        | some (.table false _ _) => none
        | some (.table true dotted es) => (addPair dotted true v path es).map (.table true dotted)
        | some (.tables elements) =>
          (updateLast (addPair false true v path) elements).map .tables)
      entries

/-- Adds pairs to a table. -/
def addPairs (pairs : List (List String × Value)) (entries : Items) : Option Items :=
  pairs.foldlM (fun es p => addPair false false p.2 p.1 es) entries

/-- The header of a section: the path of a table, or of an array that gets a table. -/
structure Header where
  isArray : Bool
  path : List String

/-- A header and the pairs below it. -/
structure Section where
  header : Header
  pairs : List (List String × Value)

/-- Takes a key away, with what it leads to. -/
def extract (key : String) : Items → Option Item × Items
  | [] => (none, [])
  | (k, i) :: rest =>
    if k = key then (some i, rest) else ((extract key rest).map id ((k, i) :: ·))

/-- Adds a section to the table right around it. -/
def addHere (isArray : Bool) (pairs : List (List String × Value)) (key : String)
    (entries : Items) : Option Items :=
  if isArray then do
    let es ← addPairs pairs []
    update key
      (fun
        | none => some (.tables [es])
        | some (.tables elements) => some (.tables (elements ++ [es]))
        | some _ => none)
      entries
  else
    match extract key entries with
    | (none, _) => do
      let es ← addPairs pairs []
      return entries ++ [(key, .table false false es)]
    | (some (.table true false es), others) => do
      let es ← addPairs pairs es
      return others ++ [(key, .table false false es)]
    | (some _, _) => none

/-- Adds a section with a path from a table. -/
def addAt (isArray : Bool) (pairs : List (List String × Value)) :
    List String → Items → Option Items
  | [], _ => none
  | [key], entries => addHere isArray pairs key entries
  | key :: path, entries =>
    update key
      (fun
        | none => (addAt isArray pairs path []).map (.table true false)
        | some (.value _) => none
        | some (.table implicit dotted es) =>
          (addAt isArray pairs path es).map (.table implicit dotted)
        | some (.tables elements) =>
          (updateLast (addAt isArray pairs path) elements).map .tables)
      entries

/-- Adds a section to the tree. -/
def addSection (entries : Items) (s : Section) : Option Items :=
  addAt s.header.isArray s.pairs s.header.path entries

end CrateGraph.Toml
