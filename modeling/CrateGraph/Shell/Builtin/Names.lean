import CrateGraph.Shell.Builtin.Variables
import CrateGraph.Shell.Lookup
import CrateGraph.Shell.Reader

/-!
# Commands about names

The commands of the shell that say what a name stands for, and that let names stand for
something else. Each is given its arguments, and its result is its status.
-/

namespace CrateGraph.Shell

/-! ## Aliases -/

/-- The place of a name in a table with so many places. -/
def tablePlace (size : Nat) (name : String) : Nat :=
  let codes := name.toList.map Char.toNat
  ((codes.head?.getD 0) * 16 + codes.foldl Nat.add 0) % size

/-- Names in the order of a table. Those with the same place are in the order in which they
came. -/
def inTableOrder {α : Type} (size : Nat) (name : α → String) (entries : List α) : List α :=
  entries.mergeSort fun a b => decide (tablePlace size (name a) ≤ tablePlace size (name b))

/-- An alias as it can be read back. -/
def aliasLine (a : String × String) : String := a.1 ++ "=" ++ inQuotes a.2 ++ "\n"

/-- Lets a name stand for a text. -/
def setAlias (name value : String) : Work Unit :=
  modify fun s =>
    { s with aliases :=
        if s.aliases.any (·.1 = name) then
          s.aliases.map fun a => if a.1 = name then (name, value) else a
        else s.aliases ++ [(name, value)] }

/-- Lets names stand for texts, or lists such names. -/
def makeAliases : Nat → List String → Work Nat
  | status, [] => return status
  | status, arg :: args => do
    let (first, rest) := (arg.toList.take 1, arg.toList.drop 1)
    let name := rest.takeWhile (· ≠ '=')
    match rest.drop name.length with
    | _ :: value => do
      setAlias (String.ofList (first ++ name)) (String.ofList value)
      makeAliases status args
    | [] =>
      match (← get).aliases.find? fun a => a.1 = arg with
      | some a => do
        say (aliasLine a)
        makeAliases status args
      | none => do
        complain ("alias: " ++ arg ++ " not found\n")
        makeAliases 1 args

/-- Lets names stand for texts, or lists such names. -/
def aliasCommand (args : List String) : Work Nat := do
  if args.isEmpty then
    say (String.join ((inTableOrder 39 (·.1) (← get).aliases).map aliasLine))
    return 0
  else makeAliases 0 args

/-- Drops aliases. -/
def dropAliases : Nat → List String → Work Nat
  | status, [] => return status
  | status, name :: names => do
    let s ← get
    if s.aliases.any (·.1 = name) then
      set { s with aliases := s.aliases.filter fun a => a.1 ≠ name }
      dropAliases status names
    else
      complain ("unalias: " ++ name ++ " not found\n")
      dropAliases 1 names

/-- Drops aliases, or all of them. -/
def unalias (args : List String) : Work Nat := do
  let (options, names) ← optionsOf "a" args
  if !options.isEmpty then
    modify fun s => { s with aliases := [] }
    return 0
  else dropAliases 0 names

/-! ## What names stand for -/

/-- Remembers that a program has been found. -/
def remember (name : String) : Work Unit :=
  modify fun s =>
    { s with known := if s.known.contains name || name.toList.contains '/' then s.known
      else s.known ++ [name] }

/-- Says what a name stands for, in words or as a command. -/
def describe (inWords : Bool) (dirs : Option String) (name : String) : Work Nat := do
  let s ← get
  let t ← System.tree
  let tell := fun (words brief : String) => do
    say ((if inWords then name ++ words else brief) ++ "\n")
    return 0
  let unknown : Work Nat := do
    if inWords then say (name ++ ": not found\n")
    return 127
  if reservedNames.contains name then tell " is a shell keyword" name
  else match s.aliases.find? fun a => a.1 = name with
    | some a =>
      if inWords then tell (" is an alias for " ++ a.2) ""
      else
        say ("alias " ++ aliasLine a)
        return 0
    | none =>
      match look t s true (dirs <|> searchDirs s) name with
      | .function _ => tell " is a shell function" name
      | .builtin =>
        tell (if isSpecial name then " is a special shell builtin" else " is a shell builtin") name
      | .program path => do
        if path.toList.contains '/' && name.toList.contains '/'
            && !t.pathExists s.cwd (pathOf path) then unknown
        else
          let tracked := dirs.isNone && s.known.contains name
          if dirs.isNone then remember name
          tell ((if tracked then " is a tracked alias for " else " is ") ++ path) path
      | .missing _ => unknown

/-- Says what names stand for. -/
def describeAll : Nat → List String → Work Nat
  | status, [] => return status
  | status, name :: names => do
    let result ← describe true none name
    describeAll (if result = 0 then status else result) names

/-- Says what the name of a command stands for. -/
def commandNamed (args : List String) : Work Nat := do
  let (options, args) ← optionsOf "pvV" args
  let asks := fun (c : Char) => options.any fun o => o.1 = c
  match args with
  | name :: _ =>
    if asks 'v' || asks 'V' then
      describe (asks 'V') (if asks 'p' then some defaultPath else none) name
    else return 0
  | [] => return 0

/-- Finds programs before they are needed. -/
def rememberAll : Nat → List String → Work Nat
  | status, [] => return status
  | status, name :: names => do
    match look (← System.tree) (← get) true (searchDirs (← get)) name with
    | .missing e => do
      warn (name ++ ": " ++ reasonFor "not found" e)
      rememberAll 1 names
    | .program _ => do
      remember name
      rememberAll status names
    | _ => rememberAll status names

/-- Finds programs before they are needed, or lists those that have been found. -/
def hashCommand (args : List String) : Work Nat := do
  let (options, args) ← optionsOf "r" args
  if !options.isEmpty then
    modify fun s => { s with known := [] }
    return 0
  else if args.isEmpty then
    let s ← get
    let t ← System.tree
    let lines := (inTableOrder 31 id s.known).map fun name =>
      match firstProgram t s.cwd .notFound (candidates (searchDirs s) name) with
      | .ok path => path ++ "\n"
      | .error _ => ""
    say (String.join lines)
    return 0
  else rememberAll 0 args

end CrateGraph.Shell
