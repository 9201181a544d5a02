import CrateGraph.Shell.Arithmetic
import CrateGraph.Shell.Fields
import CrateGraph.Shell.Session

/-!
# Expansions

A word of a command stands for something that depends on the shell: the values of
parameters, the home directory, numbers, and the output of commands. The last of these need
a shell to run, which is a parameter of all functions here.
-/

namespace CrateGraph.Shell

/-- Where a tilde stands for a home directory. -/
inductive Tilde where
  | nowhere
  | atStart
  /-- At the start and after each colon. -/
  | inList
deriving DecidableEq, Repr

/-- What a word is expanded for. -/
structure Purposes where
  /-- Whether it is cut into fields. -/
  fields : Bool
  tilde : Tilde
  /-- Whether characters that are not quoted may be cut too, since they stand in the place
  of a value. -/
  inValue : Bool

namespace Purposes

/-- For fields. -/
def forFields : Purposes := ⟨true, .atStart, false⟩

/-- For a single text. -/
def forText : Purposes := ⟨false, .atStart, false⟩

/-- For the value of a variable. -/
def forValue : Purposes := ⟨false, .inList, false⟩

/-- For a text in which nothing is special. -/
def quoted : Purposes := ⟨false, .nowhere, false⟩

end Purposes

/-- Runs a command and gives what it writes. -/
abbrev Runner := Option Command → Work String

/-! ## Parameters -/

/-- The characters that separate fields. -/
def separators (s : Session) : List Char :=
  match s.value? "IFS" with
  | some ifs => ifs.toList
  | none => [' ', '\t', '\n']

/-- The settings that are on, in their order. -/
def optionLetters (s : Session) : String :=
  String.ofList (['p', 'u', 'b', 'a', 'C', 'E', 'V', 'v', 'x', 's', 'n', 'm', 'i', 'I', 'f', 'e']
    |>.filter s.has)

/-- The value of a parameter that is not all arguments. -/
def paramValue? (s : Session) (name : String) : Option String :=
  match name with
  | "#" => some (toString s.args.length)
  | "?" => some (toString s.status)
  | "$" => some (toString s.shellPid)
  | "!" => s.background.map toString
  | "-" => some (optionLetters s)
  | "0" => some s.name
  | _ =>
    if name.toList.all Char.isDigit then
      match numberOf 10 name.toList with
      | 0 => some s.name
      | n + 1 => s.args[n]?
    else s.value? name

/-- Whether a parameter is all arguments. -/
def isAllArguments (name : String) : Bool := name = "@" || name = "*"

/-- Texts with items between each two. -/
def joinItems (between : List Item) : List (List Item) → List Item
  | [] => []
  | [x] => x
  | x :: xs => x ++ between ++ joinItems between xs

/-- All arguments as items. -/
def argumentItems (s : Session) (p : Purposes) (name : String) (quoted : Bool) : List Item :=
  let texts := fun (cut : Bool) => s.args.map (Item.ofText quoted cut)
  if p.fields && !quoted then joinItems [.boundary] (texts true)
  else if p.fields && name = "@" then
    if s.args.isEmpty then [] else joinItems [.argument] (texts false) ++ [.held]
  else
    let separator := match separators s with
      | c :: _ => [Item.char c true false]
      | [] => []
    joinItems separator (texts false)

/-- The items of a value. -/
def valueItems (quoted : Bool) (s : String) : List Item :=
  if quoted then Item.ofText true false s else .edge :: Item.ofText false true s ++ [.edge]

/-- Stops since a parameter has no value. -/
def refuseUnset {α : Type} (name : String) : Work α := refuse (name ++ ": parameter not set")

/-! ## Home directories -/

/-- The home directory of somebody. -/
def homeOf? (s : Session) (name : String) : Option String :=
  if name = "" then s.value? "HOME" else if name = "root" then some "/root" else none

/-- The home directory that a tilde at the start of a word stands for, and the rest of the
word. -/
def readTilde (s : Session) (inList : Bool) (w : Word) : Option (List Item × Word) :=
  let ends := fun c => c = '/' || (inList && c = ':')
  let isName := fun
    | Piece.char c => !ends c
    | _ => false
  match w with
  | .char '~' :: rest =>
    let name := rest.takeWhile isName
    let after := rest.drop name.length
    let isWhole := match after with
      | [] => true
      | .char _ :: _ => true
      | _ => false
    if isWhole then
      (homeOf? s (String.ofList (Word.unquoted name))).map fun home =>
        (Item.ofText true false home, after)
    else none
  | _ => none

/-! ## Words -/

/-- The items of a word up to a piece that is not known without the shell, after those that
have been found already, the last one first. -/
def knownItems (s : Session) (p : Purposes) : Nat → Bool → List Item → Word → List Item × Word
  | 0, _, found, w => (found, w)
  | _, _, found, [] => (found, [])
  | steps + 1, tilde, found, x :: w =>
    let goOn := fun (i : Item) (tilde : Bool) => knownItems s p steps tilde (i :: found) w
    match x with
    | .char c =>
      match if tilde && c = '~' then readTilde s (p.tilde = .inList) (x :: w) else none with
      | some (items, rest) => knownItems s p steps false (items.reverse ++ found) rest
      | none => goOn (.char c false p.inValue) (p.tilde = .inList && c = ':')
    | .literal c => goOn (.char c true false) false
    | .mark =>
      match w with
      | .param "@" .value _ [] true :: .mark :: _ => (found, x :: w)
      | _ => goOn .mark false
    | _ => (found, x :: w)

/-- What a word is expanded for where it stands in the place of a value. -/
def Purposes.inside (p : Purposes) (quoted : Bool) : Purposes :=
  if quoted then { p with tilde := .nowhere, inValue := false }
  else { p with tilde := .atStart, inValue := true }

/-- The number that an expression is. -/
def calculate (expression : String) : Work Int := do
  let s ← get
  match Arithmetic.evaluate s.value? expression with
  | .error e => refuse (e.message expression)
  | .ok (n, assigned) =>
    for (name, value) in assigned.reverse do
      setVar name (toString value)
    return n

/-- The items of a parameter, of which words that stand in its place are expanded by
`inner`. -/
def paramItems (inner : Purposes → Word → Work (List Item)) (p : Purposes) (name : String)
    (use : Use) (emptyToo : Bool) (w : Word) (quoted : Bool) : Work (List Item) := do
  let s ← get
  let all := isAllArguments name
  let value? := if all then some (String.intercalate " " s.args) else paramValue? s name
  let isSet := match value? with
    | some v => !(emptyToo && v = "")
    | none => false
  let items := fun (v : String) =>
    if all then argumentItems s p name quoted else valueItems quoted v
  let strict := value?.isNone && s.has 'u'
  match use with
  | .unknown => refuse "Bad substitution"
  | .value => if strict then refuseUnset name else return (value?.map items).getD []
  | .length =>
    if strict then refuseUnset name
    else return valueItems quoted (toString ((value?.map String.length).getD 0))
  | .orElse => if isSet then return (value?.map items).getD [] else inner (p.inside quoted) w
  | .ifSet => if isSet then inner (p.inside quoted) w else return []
  | .orAssign =>
    if isSet then return (value?.map items).getD []
    else
      let text := Item.text (← inner .forText w)
      assign name text
      return valueItems quoted text
  | .orFail =>
    if isSet then return (value?.map items).getD []
    else if w.isEmpty then
      refuse (name ++ ": parameter not set" ++ if emptyToo then " or null" else "")
    else refuse (name ++ ": " ++ Item.text (← inner .forText w))
  | .trim atEnd longest =>
    if strict then refuseUnset name
    else
      let pattern := Item.pattern (← inner .forText w)
      let cs := (value?.getD "").toList
      let rest := if atEnd then pattern.trimEnd longest cs else pattern.trimStart longest cs
      return valueItems quoted (String.ofList rest)

/-- The items of a word, after those that have been found already, the last one first. -/
def expandFrom (run : Runner) (inner : Purposes → Word → Work (List Item)) (p : Purposes) :
    Nat → Bool → List Item → Word → Work (List Item)
  | 0, _, found, _ => return found.reverse
  | steps + 1, tilde, found, w => do
    let (found, rest) := knownItems (← get) p (w.length + 1) tilde found w
    let goOn := fun (items : List Item) (rest : Word) =>
      expandFrom run inner p steps false (items.reverse ++ found) rest
    match rest with
    | [] => return found.reverse
    | .mark :: .param name _ _ _ _ :: .mark :: rest =>
      goOn (argumentItems (← get) p name true) rest
    | .param name use emptyToo w quoted :: rest =>
      goOn (← paramItems inner p name use emptyToo w quoted) rest
    | .output body quoted :: rest => goOn (valueItems quoted (← run body)) rest
    | .number e quoted :: rest =>
      let n ← calculate (Item.text (← inner .quoted e))
      goOn (valueItems quoted (toString n)) rest
    | _ :: rest => goOn [] rest

/-- The items of a word. The first argument bounds how deep words are nested. -/
def expandIn (run : Runner) : Nat → Purposes → Word → Work (List Item)
  | 0, _, _ => return []
  | depth + 1, p, w =>
    expandFrom run (expandIn run depth) p (w.length + 1) (p.tilde ≠ .nowhere) [] w

/-- The items of a word. -/
def expand (run : Runner) (p : Purposes) (w : Word) : Work (List Item) := expandIn run 2000 p w

/-- The text that a word stands for where nothing is cut. -/
def expandText (run : Runner) (w : Word) : Work String :=
  return Item.text (← expand run .forText w)

/-- The value that a word stands for in an assignment. -/
def expandValue (run : Runner) (w : Word) : Work String :=
  return Item.text (← expand run .forValue w)

/-- The text that a document stands for. -/
def expandDocument (run : Runner) (w : Word) : Work String :=
  return Item.text (← expand run .quoted w)

/-- The pattern that a word stands for. -/
def expandPattern (run : Runner) (w : Word) : Work Pattern :=
  return Item.pattern (← expand run .forText w)

/-- The texts that a word stands for. -/
def expandWord (run : Runner) (w : Word) : Work (List String) := do
  let items ← expand run .forFields w
  let s ← get
  let fields := cutFields (separators s) none items
  if s.has 'f' then return fields.map Item.text
  else
    let t ← System.tree
    return fields.flatMap (Item.names t s.cwd)

/-- The texts that words stand for, after those that have been found already, the last
ones first. -/
def expandWordsFrom (run : Runner) : List (List String) → List Word → Work (List String)
  | found, [] => return found.reverse.flatten
  | found, w :: ws => do expandWordsFrom run ((← expandWord run w) :: found) ws

/-- The texts that words stand for. -/
def expandWords (run : Runner) (ws : List Word) : Work (List String) := expandWordsFrom run [] ws

end CrateGraph.Shell
