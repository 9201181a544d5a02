import CrateGraph.Toml.Quoted
import CrateGraph.Toml.Scalar
import CrateGraph.Toml.Tree

/-!
# Sections of a TOML text

A text is a list of sections. The first has no header; each of the others has one, which
names a table or an array of tables. A section is a list of pairs of a dotted key and a
value, one to a line.

Arrays and inline tables may be nested in each other less than `deepest` times. Reading
them takes a bound on the number of steps, for which the length of the text serves: every
step takes a character away.
-/

namespace CrateGraph.Toml

/-- Arrays and tables around a value, and the parts of a key, are fewer. -/
def deepest : Nat := 80

/-- Drops white space inside a line. -/
def dropGap (cs : List Char) : List Char := cs.dropWhile isGap

/-- Drops a comment up to the end of its line. -/
def dropComment : List Char → List Char
  | '#' :: rest => rest.dropWhile isPlain
  | cs => cs

/-- What follows the end of a line, before which there may be white space and a comment. -/
def endLine (cs : List Char) : Option (List Char) :=
  match dropComment (dropGap cs) with
  | [] => some []
  | '\n' :: rest => some rest
  | _ => none

/-- Drops white space, line ends and comments, the last of which must end with its line.
`steps` bounds the lines. -/
def dropLines : Nat → List Char → List Char
  | 0, cs => cs
  | steps + 1, cs =>
    match dropComment (dropGap cs) with
    | '\n' :: rest => dropLines steps rest
    | _ => dropGap cs

/-- Whether a character can stand in a key without quotes. -/
def isBare (c : Char) : Bool := c.isAlphanum || c = '_' || c = '-'

/-- One part of a key at the start of a text, and what follows it. -/
def readPart (cs : List Char) : Option (String × List Char) :=
  match cs.takeWhile isBare with
  | [] => readLineString cs
  | part => some (String.ofList part, cs.dropWhile isBare)

/-- The parts of a key at the start of a text, with dots between them, and what follows
them and the white space after them. `steps` bounds the parts. -/
def readParts : Nat → List Char → Option (List String × List Char)
  | 0, _ => none
  | steps + 1, cs => do
    let (part, rest) ← readPart (dropGap cs)
    match dropGap rest with
    | '.' :: rest =>
      let (parts, rest) ← readParts steps rest
      return (part :: parts, rest)
    | rest => return ([part], rest)

/-- The key at the start of a text, and what follows it. -/
def readKey (cs : List Char) : Option (List String × List Char) :=
  readParts (deepest - 1) cs

mutual

/-- The value at the start of a text, inside so many arrays and tables that may still be
opened, and what follows it. -/
def readValue (steps depth : Nat) (cs : List Char) : Option (Value × List Char) :=
  match steps with
  | 0 => none
  | steps + 1 =>
    match cs with
    | '"' :: _ => (readString cs).map fun r => (.text r.1, r.2)
    | '\'' :: _ => (readString cs).map fun r => (.text r.1, r.2)
    | '[' :: rest =>
      match depth with
      | 0 => none
      | depth + 1 => (readItems steps depth rest).map fun r => (.list r.1, r.2)
    | '{' :: rest =>
      match depth with
      | 0 => none
      | depth + 1 =>
        match dropGap rest with
        | '}' :: rest => some (.table [], rest)
        | rest => do
          let (pairs, rest) ← readInline steps depth rest
          let items ← addPairs pairs []
          return (.table (entryValues items), rest)
    | cs => readScalar cs

/-- The items of an array up to its closing bracket, and what follows it. -/
def readItems (steps depth : Nat) (cs : List Char) : Option (List Value × List Char) :=
  match steps with
  | 0 => none
  | steps + 1 =>
    match dropLines steps cs with
    | ']' :: rest => some ([], rest)
    | cs => do
      let (v, rest) ← readValue steps depth cs
      match dropLines steps rest with
      | ',' :: rest =>
        let (vs, rest) ← readItems steps depth rest
        return (v :: vs, rest)
      | ']' :: rest => return ([v], rest)
      | _ => none

/-- The pairs of an inline table up to its closing brace, and what follows it. -/
def readInline (steps depth : Nat) (cs : List Char) :
    Option (List (List String × Value) × List Char) :=
  match steps with
  | 0 => none
  | steps + 1 => do
    let (key, rest) ← readKey cs
    let rest ← skip '=' rest
    let (v, rest) ← readValue steps depth (dropGap rest)
    match dropGap rest with
    | ',' :: rest =>
      let (pairs, rest) ← readInline steps depth rest
      return ((key, v) :: pairs, rest)
    | '}' :: rest => return ([(key, v)], rest)
    | _ => none

end

/-- The pair on the line at the start of a text, and what follows that line. -/
def readPair (cs : List Char) : Option ((List String × Value) × List Char) := do
  let (key, rest) ← readKey cs
  let rest ← skip '=' rest
  let (v, rest) ← readValue (2 * rest.length + 2) (deepest - 1) (dropGap rest)
  let rest ← endLine rest
  return ((key, v), rest)

/-- The header on the line at the start of a text, and what follows that line. -/
def readHeader (cs : List Char) : Option (Header × List Char) := do
  match cs with
  | '[' :: '[' :: rest =>
    let (path, rest) ← readKey rest
    let rest ← skip ']' rest
    let rest ← skip ']' rest
    return (⟨true, path⟩, ← endLine rest)
  | '[' :: rest =>
    let (path, rest) ← readKey rest
    let rest ← skip ']' rest
    return (⟨false, path⟩, ← endLine rest)
  | _ => none

/-- The pairs up to the next header, and the sections from there on. `steps` bounds the
lines. -/
def readLines : Nat → List Char → Option (List (List String × Value) × List Section)
  | 0, _ => none
  | steps + 1, cs =>
    match dropGap cs with
    | [] => some ([], [])
    | '[' :: rest => do
      let (header, rest) ← readHeader ('[' :: rest)
      let (pairs, sections) ← readLines steps rest
      return ([], ⟨header, pairs⟩ :: sections)
    | cs =>
      match endLine cs with
      | some rest => readLines steps rest
      | none => do
        let (pair, rest) ← readPair cs
        let (pairs, sections) ← readLines steps rest
        return (pair :: pairs, sections)

/-- The text with each line end written as a line feed. -/
def unifyLineEnds : List Char → List Char
  | '\r' :: '\n' :: rest => '\n' :: unifyLineEnds rest
  | c :: rest => c :: unifyLineEnds rest
  | [] => []

/-- The text without a byte order mark. -/
def dropMark : List Char → List Char
  | '\uFEFF' :: rest => rest
  | cs => cs

/-- The tree of a TOML text, unless it is not well formed. -/
def parse (s : String) : Option Value := do
  let cs := unifyLineEnds (dropMark s.toList)
  let (pairs, sections) ← readLines (cs.length + 1) cs
  let items ← addPairs pairs []
  let items ← sections.foldlM addSection items
  return .table (entryValues items)

end CrateGraph.Toml
