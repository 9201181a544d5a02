import CrateGraph.FileTree
import CrateGraph.Shell.Pattern
import CrateGraph.Text.Raw

/-!
# Fields

What a word stands for is cut into fields: where a value that is not quoted has one of the
characters of the variable `IFS`, and between the arguments of the shell. A field that is
like a pattern then stands for the names of all files that are like it, if there are any.
-/

namespace CrateGraph.Shell

/-- A part of what a word stands for. -/
inductive Item where
  /-- A character, which may be quoted, and at which a field may be cut. -/
  | char (c : Char) (quoted cut : Bool)
  /-- The start or the end of a quotation: there is a field, be it empty. -/
  | mark
  /-- The start or the end of a value at which a field may be cut. -/
  | edge
  /-- The boundary between two arguments that are not quoted. -/
  | boundary
  /-- The boundary between two quoted arguments. -/
  | argument
  /-- The end of quoted arguments: there is a field for each. -/
  | held
deriving DecidableEq, Repr

namespace Item

/-- The characters of a text. -/
def ofText (quoted cut : Bool) (s : String) : List Item :=
  s.toList.map fun c => .char c quoted cut

/-- The pattern that items are. -/
def pattern (items : List Item) : Pattern :=
  items.filterMap fun
    | .char c quoted _ => some (c, quoted)
    | .boundary | .argument => some (' ', true)
    | _ => none

/-- The text that items are. -/
def text (items : List Item) : String := (pattern items).text

end Item

/-! ## Cutting -/

/-- How far items have been cut into fields. -/
structure Cutting where
  /-- The fields up to now, the last one first. -/
  fields : List (List Item)
  /-- The field at hand, its last item first. -/
  field : List Item
  /-- Whether a field has just been ended by white space, of which more may follow. -/
  afterSpace : Bool
  /-- Whether the last characters at which a field could be cut were all of quoted
  arguments. -/
  argumentsOnly : Bool
  /-- Whether a stretch of characters follows at which a field could be cut, and comes right
  after quoted arguments. -/
  afterArguments : Bool
  /-- Whether such a stretch is being read. -/
  inStretch : Bool
  /-- How many more fields there may be, if that is bounded. -/
  more : Option Nat
  /-- In the last field that there may be: what it is if nothing follows but separators, its
  last item first. -/
  kept : Option (List Item)

namespace Cutting

/-- Nothing has been cut yet. -/
def start (most : Option Nat) : Cutting := ⟨[], [], false, false, false, false, most, none⟩

/-- Ends the field at hand. -/
def endField (c : Cutting) : Cutting := { c with fields := c.field.reverse :: c.fields, field := [] }

/-- Adds an item to the field at hand. -/
def add (i : Item) (c : Cutting) : Cutting := { c with field := i :: c.field }

/-- Adds a character to the last field that there may be. -/
def addLast (i : Item) (separates isSpace : Bool) (c : Cutting) : Cutting :=
  let kept := if isSpace then some (c.kept.getD c.field)
    else if separates && c.afterSpace then c.kept
    else none
  { c with field := i :: c.field, kept := kept, afterSpace := isSpace && c.afterSpace }

/-- Reads a character at which a field may be cut. -/
def cutAt (i : Item) (separates isSpace : Bool) (c : Cutting) : Cutting :=
  let c := if c.inStretch then c
    else { c with
      inStretch := true, afterSpace := false, afterArguments := c.argumentsOnly,
      argumentsOnly := false }
  if c.more = some 0 then c.addLast i separates isSpace
  else if c.afterSpace && separates then
    if isSpace then c else { c with afterSpace := false }
  else if !separates then { c.add i with afterSpace := false }
  else
    let c := if c.afterArguments then c else { c with afterSpace := isSpace }
    if c.field.isEmpty && c.afterSpace then { c with afterSpace := false }
    else match c.more with
      | some 1 => { c with more := some 0, kept := some c.field, field := i :: c.field }
      | more => { c.endField with more := more.map (· - 1) }

/-- Reads an item, given the characters at which fields are cut. -/
def read (ifs : List Char) (c : Cutting) : Item → Cutting
  | .char d quoted cut =>
    if !cut then { c.add (.char d quoted cut) with inStretch := false, kept := none }
    else
      let isSpace := d = ' ' || d = '\t' || d = '\n'
      let separates := ifs.contains d
      c.cutAt (.char d quoted cut) separates (separates && isSpace)
  | .boundary => c.cutAt (.char ' ' false true) true true
  | .argument => { c.endField with inStretch := false, argumentsOnly := true }
  | .held => { c with inStretch := false, argumentsOnly := true }
  | .mark => { c.add .mark with inStretch := false }
  | .edge => { c with inStretch := false }

/-- The fields. -/
def finish (c : Cutting) : List (List Item) :=
  let field := c.kept.getD c.field
  if c.argumentsOnly || !field.isEmpty then (field.reverse :: c.fields).reverse
  else c.fields.reverse

end Cutting

/-- The fields of items, at most so many if that is bounded. -/
def cutFields (ifs : List Char) (most : Option Nat) (items : List Item) : List (List Item) :=
  (items.foldl (Cutting.read ifs) (.start most)).finish

/-! ## Names of files -/

/-- The first part of a pattern of a path, up to a slash, and the rest with that slash. -/
def splitPattern (p : Pattern) : Pattern × Pattern :=
  (p.takeWhile fun c => c.1 ≠ '/', p.dropWhile fun c => c.1 ≠ '/')

/-- The paths of files that are like a pattern, after a path that has been chosen already.
`steps` bounds the parts of the pattern. -/
def pathsLike (t : FileTree) (cwd : Location) : Nat → String → Pattern → List String
  | 0, _, _ => []
  | steps + 1, before, p =>
    let (part, rest) := splitPattern p
    let slashes := (rest.takeWhile fun c => c.1 = '/').map (·.1)
    let after := rest.drop slashes.length
    let goOn := fun (name : String) =>
      pathsLike t cwd steps (before ++ name ++ String.ofList slashes) after
    let isThere := fun (s : String) => match t.place .lookAtLink cwd ⟨Text.unraw s⟩ with
      | .ok (.present _) => true
      | _ => false
    if !part.isSpecial then
      if rest.isEmpty then
        if isThere (before ++ part.text) then [before ++ part.text] else []
      else goOn part.text
    else
      let dir := if before = "" then "." else before
      match t.locate cwd ⟨Text.unraw dir⟩ with
      | .error _ => []
      | .ok l =>
        if !t.isDirAt l then []
        else
          let names := "." :: ".." :: (t.namesIn l).map Text.raw
          let hidden := part.head?.any fun c => c.1 = '.'
          let fitting := names.filter fun name =>
            (hidden || name.toList.head? ≠ some '.') && part.fits name.toList
          fitting.flatMap fun name => if rest.isEmpty then [before ++ name] else goOn name

/-- The texts that a field stands for: the paths that are like it, or else the field
itself. -/
def Item.names (t : FileTree) (cwd : Location) (field : List Item) : List String :=
  let p := Item.pattern field
  let found := if p.isSpecial then
      (pathsLike t cwd (p.length + 1) "" p).mergeSort fun a b => decide (a ≤ b)
    else []
  if found.isEmpty then [p.text] else found

end CrateGraph.Shell
