import CrateGraph.Shell.Session

/-!
# Options and settings

Commands of the shell have options, which are letters after a dash. The settings of the
shell itself are letters too, and most of them have a name.
-/

namespace CrateGraph.Shell

/-- An option that was given, with its argument if it has one. -/
abbrev GivenOption := Char × Option String

/-- The options in an argument, after its dash, and the arguments that are left. `spec` has
the letters that there are, with a colon after each that takes an argument. -/
def optionsIn (spec : List Char) : List Char → List String →
    Except String (List GivenOption × List String)
  | [], args => .ok ([], args)
  | c :: cs, args =>
    match (spec.filter (· ≠ ':')).contains c, spec.dropWhile (· ≠ c) with
    | true, _ :: ':' :: _ =>
      if !cs.isEmpty then .ok ([(c, some (String.ofList cs))], args)
      else match args with
        | a :: args => .ok ([(c, some a)], args)
        | [] => .error ("No arg for -" ++ c.toString ++ " option")
    | true, _ => (optionsIn spec cs args).map fun r => ((c, none) :: r.1, r.2)
    | false, _ => .error ("Illegal option -" ++ c.toString)

/-- The options at the start of arguments, and the arguments that are left. `steps` bounds
the arguments. -/
def readOptions (spec : List Char) : Nat → List String →
    Except String (List GivenOption × List String)
  | 0, args => .ok ([], args)
  | _, [] => .ok ([], [])
  | steps + 1, arg :: args =>
    match arg.toList with
    | ['-', '-'] => .ok ([], args)
    | '-' :: c :: cs => do
      let (found, args) ← optionsIn spec (c :: cs) args
      let (more, args) ← readOptions spec steps args
      return (found ++ more, args)
    | _ => .ok ([], arg :: args)

/-- The options of a command of the shell, and its other arguments. -/
def optionsOf (spec : String) (args : List String) : Work (List GivenOption × List String) := do
  match readOptions spec.toList args.length args with
  | .ok r => return r
  | .error message => refuse message

/-- The arguments of a command of the shell that has no options. -/
def operandsOf (args : List String) : Work (List String) := return (← optionsOf "" args).2

/-- A number that an argument is. -/
def numberIn (arg : String) : Work Nat := do
  match countOf? arg with
  | some n => return n
  | none => refuse ("Illegal number: " ++ arg)

/-! ## Settings -/

/-- The settings of the shell by name, with their letters. Two have none that can be
typed. -/
def settingNames : List (String × Char) :=
  [("errexit", 'e'), ("noglob", 'f'), ("ignoreeof", 'I'), ("interactive", 'i'), ("monitor", 'm'),
    ("noexec", 'n'), ("stdin", 's'), ("xtrace", 'x'), ("verbose", 'v'), ("vi", 'V'),
    ("emacs", 'E'), ("noclobber", 'C'), ("allexport", 'a'), ("notify", 'b'), ("nounset", 'u'),
    ("privileged", 'p'), ("nolog", '\x01'), ("debug", '\x02')]

/-- Turns a setting on or off. -/
def switch (on : Bool) (letter : Char) : Work Unit :=
  modify fun s =>
    let others := s.options.filter (· ≠ letter)
    { s with options := if on then letter :: others else others }

/-- Turns the setting with a letter on or off. -/
def switchLetter (on : Bool) (letter : Char) : Work Unit := do
  if letter.toNat > 2 && settingNames.any (·.2 = letter) then switch on letter
  else refuse ("Illegal option -" ++ letter.toString)

/-- Lists the settings. -/
def settingLines (s : Session) (asCommands : Bool) : String :=
  let line := fun (e : String × Char) =>
    if asCommands then "set " ++ (if s.has e.2 then "-o " else "+o ") ++ e.1 ++ "\n"
    else
      let padding := String.ofList (List.replicate (16 - e.1.length) ' ')
      e.1 ++ padding ++ (if s.has e.2 then "on" else "off") ++ "\n"
  (if asCommands then "" else "Current option settings\n")
    ++ String.join (settingNames.map line)

/-- Turns the setting with a name on or off, or lists all settings. -/
def switchName (on : Bool) : Option String → Work Unit
  | none => do say (settingLines (← get) !on)
  | some name =>
    match settingNames.lookup name with
    | some letter => switch on letter
    | none => refuse ("Illegal option -o " ++ name)

/-- Reads settings from the letters of an argument; the result is the arguments that are
left, and whether a script is to be given. -/
def switchLetters (starting on : Bool) : List Char → List String → Work (List String × Bool)
  | [], args => return (args, false)
  | c :: cs, args =>
    if starting && c = 'c' then do
      let (args, _) ← switchLetters starting on cs args
      return (args, true)
    else if starting && c = 'l' then switchLetters starting on cs args
    else if c = 'o' then do
      switchName on args.head?
      switchLetters starting on cs args.tail
    else do
      switchLetter on c
      switchLetters starting on cs args

/-- What is left of arguments after settings. -/
structure Remaining where
  args : List String
  /-- Whether a script is to be given, or the arguments replace those of the shell. -/
  marked : Bool

/-- Reads settings from arguments. `steps` bounds them. -/
def readSettings (starting : Bool) : Nat → List String → Work Remaining
  | 0, args => return ⟨args, false⟩
  | _, [] => return ⟨[], false⟩
  | steps + 1, arg :: args =>
    match arg.toList with
    | ['-'] => do
      if !starting then
        switch false 'x'
        switch false 'v'
      return ⟨args, false⟩
    | ['-', '-'] => return ⟨args, !starting⟩
    | '-' :: cs => do
      let (args, given) ← switchLetters starting true cs args
      let r ← readSettings starting steps args
      return { r with marked := r.marked || given }
    | '+' :: cs => do
      let (args, given) ← switchLetters starting false cs args
      let r ← readSettings starting steps args
      return { r with marked := r.marked || given }
    | _ => return ⟨arg :: args, false⟩

end CrateGraph.Shell
