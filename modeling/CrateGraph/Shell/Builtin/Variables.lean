import CrateGraph.Shell.Fields
import CrateGraph.Shell.Expansion
import CrateGraph.Shell.Lookup
import CrateGraph.Shell.Options

/-!
# Commands about variables

The commands of the shell that show and change its variables, its arguments and its
settings. Each is given its arguments, and its result is its status.
-/

namespace CrateGraph.Shell

/-- A text in quotes, as it can be read back. Quotes in it are put into other quotes. -/
def quotedFrom : Nat → List Char → List Char
  | 0, _ => []
  | steps + 1, cs =>
    let plain := cs.takeWhile (· ≠ '\'')
    let rest := cs.drop plain.length
    let quotes := rest.takeWhile (· = '\'')
    let after := rest.drop quotes.length
    '\'' :: plain ++ '\''
      :: if quotes.isEmpty then []
        else '"' :: quotes ++ '"' :: if after.isEmpty then [] else quotedFrom steps after

/-- A text in quotes, as it can be read back. -/
def inQuotes (s : String) : String := String.ofList (quotedFrom (s.length + 1) s.toList)

/-- The name and the value of an argument that may be an assignment. -/
def splitAssignment (arg : String) : String × Option String :=
  let name := arg.toList.takeWhile (· ≠ '=')
  match arg.toList.drop name.length with
  | [] => (arg, none)
  | _ :: value => (String.ofList name, some (String.ofList value))

/-- Lists variables. -/
def variableLines (start : String) (vars : List Variable) : String :=
  let sorted := vars.mergeSort fun a b => decide (a.name ≤ b.name)
  String.join <| sorted.map fun v =>
    start ++ v.name
      ++ match v.value with
        | some value => "=" ++ inQuotes value ++ "\n"
        | none => "\n"

/-- Changes a variable, which is made if it is not there. -/
def changeVar (name : String) (f : Variable → Variable) : Work Unit := do
  let s ← get
  match s.var? name with
  | some v => set (s.putVar (f v))
  | none =>
    if isName name then set (s.putVar (f ⟨name, none, false, false⟩))
    else refuse (name ++ ": bad variable name")

/-- Exports variables, or lets them keep their values. -/
def markVars (command : String) (args : List String) : Work Nat := do
  let isExport := command = "export"
  let (options, args) ← optionsOf "p" args
  if !options.isEmpty || args.isEmpty then
    let marked := (← get).vars.filter fun v => if isExport then v.exported else v.fixed
    say (variableLines (command ++ " ") marked)
  else
    for arg in args do
      let (name, value) := splitAssignment arg
      match value with
      | some value => assign name value
      | none => pure ()
      changeVar name fun v =>
        if isExport then { v with exported := true } else { v with fixed := true }
  return 0

/-- Removes a variable. -/
def unsetVar (name : String) : Work Unit := do
  let s ← get
  if !isName name then refuse (name ++ ": bad variable name")
  else if (s.var? name).any (·.fixed) then refuse (name ++ ": is read only")
  else set (s.dropVar name)

/-- Removes variables, or functions. -/
def unset (args : List String) : Work Nat := do
  let (options, names) ← optionsOf "vf" args
  let isFunction := options.getLast?.any fun o => o.1 = 'f'
  for name in names do
    if isFunction then
      modify fun s => { s with functions := s.functions.filter fun f => f.1 ≠ name }
    else unsetVar name
  return 0

/-! ## Local variables -/

/-- Keeps a variable, so that it is as it was when the function ends. The name of the
settings is a dash. -/
def keepVar (name : String) : Work Unit :=
  modify fun s =>
    let old := if name = "-" then some ⟨"-", some (String.ofList s.options), false, false⟩
      else s.var? name
    match s.locals with
    | frame :: frames => { s with locals := ((name, old) :: frame) :: frames }
    | [] => s

/-- Makes a variable local, and gives it a value if there is one. -/
def makeLocal (exported : Bool) (name : String) (value : Option String) : Work Unit := do
  if name = "-" then keepVar name
  else
    let before := (← get).var? name
    keepVar name
    match value with
    | some value => assign name value
    | none => if before.isNone then changeVar name id
    if exported then changeVar name fun v => { v with exported := true }

/-- The session in which a variable is as it was. -/
def Session.putBack (s : Session) : String × Option Variable → Session
  | ("-", some v) => { s with options := (v.value.getD "").toList }
  | (_, some v) => s.putVar v
  | (name, none) => s.dropVar name

/-- Ends functions until so many are left, and puts their local variables back. -/
def leaveLocals (count : Nat) : Work Unit :=
  modify fun s =>
    let leaving := s.locals.take (s.locals.length - count)
    let s := { s with locals := s.locals.drop (s.locals.length - count) }
    leaving.flatten.foldl Session.putBack s

/-- Makes variables local. -/
def makeLocals (args : List String) : Work Nat := do
  if (← get).locals.isEmpty then refuse "not in a function"
  else
    for arg in args do
      let (name, value) := splitAssignment arg
      makeLocal false name value
    return 0

/-! ## Arguments and settings -/

/-- Gives the shell other arguments. -/
def setArguments (args : List String) : Work Unit :=
  modify fun s => { s with args := args, optionIndex := 1, optionPlace := none }

/-- Changes settings and arguments, or lists the variables. -/
def setCommand (args : List String) : Work Nat := do
  if args.isEmpty then say (variableLines "" ((← get).vars.filter (·.value.isSome)))
  else
    let r ← readSettings false (args.length + 1) args
    if r.marked || !r.args.isEmpty then setArguments r.args
  return 0

/-- Drops the first arguments. -/
def shift (args : List String) : Work Nat := do
  let n ← match args with
    | [] => pure 1
    | arg :: _ => numberIn arg
  let s ← get
  if n > s.args.length then refuse "can't shift that many"
  else
    setArguments (s.args.drop n)
    return 0

/-! ## Options of scripts -/

/-- Where `getopts` is in some arguments: the argument after the one with the next option,
and the place in that one. -/
structure OptionPlace where
  index : Nat
  place : Option Nat

/-- What `getopts` has found. -/
structure OptionFound where
  letter : Char
  /-- The value of `OPTARG`, if it is to have one. -/
  arg : Option String
  complaint : String
  next : OptionPlace
  isEnd : Bool

/-- The next option in arguments. -/
def nextOption (spec : List Char) (args : List String) (p : OptionPlace) : OptionFound :=
  let silent := spec.head? = some ':'
  let argAt := fun (i : Nat) => args[i]?
  let inside := match p.place with
    | some off =>
      if p.index ≤ 1 then []
      else (((argAt (p.index - 2)).getD "").toList).drop off
    | none => []
  let ended := fun (i : Nat) => (⟨'?', none, "", ⟨i, none⟩, true⟩ : OptionFound)
  let start : Except Nat (List Char × Nat) := if !inside.isEmpty then .ok (inside, p.index)
    else match ((argAt (p.index - 1)).getD "").toList with
      | ['-', '-'] => .error (p.index + 1)
      | '-' :: c :: cs => .ok (c :: cs, p.index + 1)
      | _ => .error p.index
  match start with
  | .error i => ended i
  | .ok ([], i) => ended i
  | .ok (c :: cs, index) =>
    let size := ((argAt (index - 2)).getD "").length
    let place := fun (rest : List Char) => some (size - rest.length)
    let letters := (spec.zip (none :: spec.map some)).filterMap fun e =>
      if e.1 = ':' && e.2.isSome then none else some e.1
    if !letters.contains c then
      ⟨'?', if silent then some c.toString else none,
        if silent then "" else "Illegal option -" ++ c.toString ++ "\n", ⟨index, place cs⟩, false⟩
    else match (spec.dropWhile (· ≠ c)).tail with
      | ':' :: _ =>
        if !cs.isEmpty then ⟨c, some (String.ofList cs), "", ⟨index, none⟩, false⟩
        else match argAt (index - 1) with
          | some a => ⟨c, some a, "", ⟨index + 1, none⟩, false⟩
          | none =>
            if silent then ⟨':', some c.toString, "", ⟨index, place cs⟩, false⟩
            else ⟨'?', none, "No arg for -" ++ c.toString ++ " option\n", ⟨index, place cs⟩, false⟩
      | _ => ⟨c, some "", "", ⟨index, place cs⟩, false⟩

/-- Finds the next option of the script, or of arguments. -/
def getOptions (args : List String) : Work Nat := do
  match args with
  | spec :: name :: rest =>
    let s ← get
    let args := if rest.isEmpty then s.args else rest
    let p := if s.optionIndex > args.length + 1 then ⟨1, none⟩
      else ⟨s.optionIndex, s.optionPlace⟩
    let found := nextOption spec.toList args p
    complain found.complaint
    match found.arg, found.isEnd with
    | _, true => pure ()
    | some arg, _ => setVar "OPTARG" arg
    | none, _ => unsetVar "OPTARG"
    setVar "OPTIND" (toString found.next.index)
    assign name found.letter.toString
    modify fun s => { s with optionIndex := found.next.index, optionPlace := found.next.place }
    return if found.isEnd then 1 else 0
  | _ => refuse "usage: getopts optstring var [arg...]"

/-! ## Reading -/

/-- The items of the bytes of a line, and whether the line goes on after them. -/
def lineItems (plain : Bool) : List Char → List Item × Bool
  | [] => ([], false)
  | '\x00' :: cs => lineItems plain cs
  | '\n' :: _ => ([], false)
  | '\\' :: cs =>
    if plain then
      let (items, more) := lineItems plain cs
      (.char '\\' false true :: items, more)
    else match cs with
      | ['\n'] => ([], true)
      | [] => ([], false)
      | c :: cs =>
        let (items, more) := lineItems plain cs
        (.char c true false :: items, more)
  | c :: cs =>
    let (items, more) := lineItems plain cs
    (.char c false true :: items, more)

/-- Reads a line, and those that it goes on in, after what has been read already. The
result is whether it was complete, too. -/
def readItems (plain : Bool) : Nat → List (List Item) → Work (List Item × Bool)
  | 0, found => return (found.reverse.flatten, false)
  | rounds + 1, found => do
    match ← readLine 0 with
    | .error _ => return (found.reverse.flatten, false)
    | .ok bytes =>
      let (items, more) := lineItems plain (Text.raw bytes).toList
      if more then readItems plain rounds (items :: found)
      else return ((items :: found).reverse.flatten, bytes.getLast? = some 10)

/-- Gives variables the fields of a line. -/
def assignFields : List String → List (List Item) → Work Unit
  | [], _ => return ()
  | name :: names, [] => do
    assign name ""
    assignFields names []
  | name :: names, field :: fields => do
    assign name (Item.text field)
    assignFields names fields

/-- Reads a line into variables. -/
def readVars (args : List String) : Work Nat := do
  let (options, names) ← optionsOf "p:r" args
  if names.isEmpty then refuse "arg count"
  else
    let (items, complete) ← readItems (options.any fun o => o.1 = 'r') manyRounds []
    let fields := cutFields (separators (← get)) (some names.length) items
    assignFields names fields
    return if complete then 0 else 1

end CrateGraph.Shell
