import CrateGraph.Shell.Builtin.Printing
import CrateGraph.Shell.Redirection
import CrateGraph.Shell.Script

/-!
# Simple commands

A simple command has assignments, words and redirections. Its words are expanded first, and
the first of them is looked up: it may be a function, a command of the shell, or a program.
Then streams are redirected and variables assigned, for as long as the command runs, and
it is run.
-/

namespace CrateGraph.Shell

/-- A simple command whose first word is known, as far as it has been expanded. -/
structure Head where
  args : List String
  /-- The arguments before them, which only said how the command is looked up. -/
  passed : List String
  /-- The words that have not been expanded yet. -/
  words : List Word
  /-- Whether functions count. -/
  functions : Bool
  /-- Where programs are looked for, if not where they usually are. -/
  dirs : Option String
  /-- Whether the first command is one whose errors end the shell, if it is one of the
  shell. -/
  special : Option Bool

namespace Head

/-- Expands words until there are more than so many arguments, if there are enough words. -/
def fill (run : Runner) (count : Nat) (args : List String) :
    List Word → Work (List String × List Word)
  | [] => return (args, [])
  | w :: ws => do
    if args.length > count then return (args, w :: ws)
    else fill run count (args ++ (← expandWord run w)) ws

/-- The number of arguments of `command` in front of the command that it is about, and
whether that is looked for in the usual directories; or nothing if it is only asked
something. `steps` bounds its arguments. -/
def skipOptions (run : Runner) : Nat → Nat → Bool → List String → List Word →
    Work (Option (Nat × Bool) × List String × List Word)
  | 0, _, _, args, ws => return (none, args, ws)
  | steps + 1, i, usual, args, ws => do
    let (args, ws) ← fill run i args ws
    match args[i]? with
    | none => return (none, args, ws)
    | some arg =>
      match arg.toList with
      | ['-', '-'] => do
        let (args, ws) ← fill run (i + 1) args ws
        return (if args.length > i + 1 then some (i + 1, usual) else none, args, ws)
      | '-' :: c :: cs =>
        if (c :: cs).all (· = 'p') then skipOptions run steps (i + 1) true args ws
        else return (none, args, ws)
      | _ => return (some (i, usual), args, ws)

/-- Reads the words `command` at the start of a command. `steps` bounds them. -/
def pass (run : Runner) : Nat → Head → Work Head
  | 0, h => return h
  | steps + 1, h => do
    match h.args with
    | [] => return h
    | name :: _ =>
      let s ← get
      let isFunction := h.functions && !name.toList.contains '/' && (s.functions.lookup name).isSome
      if isFunction || !isBuiltin name then return h
      else
        let h := { h with special := some (h.special.getD (isSpecial name)) }
        if name ≠ "command" then return h
        else
          let (found, args, ws) ← skipOptions run manyRounds 1 false h.args h.words
          match found with
          | none => return { h with args := args, words := ws }
          | some (n, usual) =>
            pass run steps
              { h with
                args := args.drop n, passed := h.passed ++ args.take n, words := ws,
                functions := false,
                dirs := if usual then some defaultPath else h.dirs }

/-- Expands the words that are left. Where arguments may be assignments, their values are
not cut. -/
def expandRest (run : Runner) (h : Head) : Work (List String) := do
  let assigns := h.args.head?.any assigningNames.contains
  let texts ← h.words.mapM fun w => do
    if assigns then
      match w.assignment? with
      | some (name, value) => return [name ++ "=" ++ (← expandValue run value)]
      | none => expandWord run w
    else expandWord run w
  return h.args ++ texts.flatten

end Head

/-- The greatest number of functions around a command. -/
def mostFunctions : Nat := 1000

/-- Runs a function with arguments of its own. -/
def callFunction (self : Perform) (tested : Bool) (body : Command) (args : List String) :
    Work Unit := do
  let s ← get
  if s.depth ≥ mostFunctions then
    refuse ("Maximum function recursion depth (" ++ toString mostFunctions ++ ") reached")
  set
    { s with
      args := args, loops := 0, depth := s.depth + 1, optionIndex := 1, optionPlace := none }
  let leave : Work Unit := modify fun t =>
    { t with
      args := s.args, loops := s.loops, depth := s.depth, optionIndex := s.optionIndex,
      optionPlace := s.optionPlace }
  try self (.command body false tested)
  catch
    | .back => pure ()
    | stop => do
      leave
      throw stop
  leave

/-- Runs a script in a file in the session of the shell. -/
def runFile (self : Perform) (tested : Bool) (path : String) : Work Nat := do
  let fd := ownStreams + 2
  match ← openPath fd path .read with
  | .error e => refuse ("cannot open " ++ path ++ ": " ++ reasonFor "No such file" e)
  | .ok () => do
    let bytes := (← readAll fd).toOption.getD []
    System.detach fd
    modify fun s => { s with builtin := some path }
    try runText self false tested (Text.raw bytes)
    catch
      | .back => return (← get).status
      | stop => throw stop

/-- Runs the script in a file that is named, and is looked for like a program. -/
def runNamedFile (self : Perform) (args : List String) : Work Nat := do
  match ← operandsOf args with
  | [] => return 0
  | name :: _ =>
    if name.toList.contains '/' then runFile self false name
    else
      let s ← get
      let t ← System.tree
      let isFile := fun (path : String) => match t.stat s.cwd (pathOf path) with
        | .ok (.file _ _) => true
        | .ok (.program _) => true
        | _ => false
      match (candidates (searchDirs s) name).find? isFile with
      | some path => runFile self false path
      | none => refuse (name ++ ": not found")

/-- Runs a command of the shell. -/
def performBuiltin (self : Perform) (tested : Bool) (name : String) (args : List String) :
    Work Nat :=
  match name with
  | "eval" =>
    if args.isEmpty then return 0 else runText self false tested (String.intercalate " " args)
  | "." => runNamedFile self args
  | "exec" => do
    if !args.isEmpty then launch self (searchDirs (← get)) args
    return 0
  | _ => (runBuiltin? name args).getD (return 0)

/-- Runs a command of the shell under its name, and tells if something that it wrote was
lost. -/
def callBuiltin (self : Perform) (tested : Bool) (name : String) (args : List String) :
    Work Unit := do
  let before := (← get).builtin
  modify fun s => { s with builtin := some name, lost := false }
  let restore : Work Unit := modify fun s => { s with builtin := before, lost := false }
  try
    let status ← performBuiltin self tested name args
    setStatus status
    if (← get).lost then
      warn (name ++ ": I/O error")
      setStatus (status ||| 1)
    restore
  catch stop => do
    restore
    throw stop

/-- Writes a command as it is traced, before it is run. -/
def trace (run : Runner) (fd : Nat) (texts : List String) : Work Unit := do
  let s ← get
  let start := (s.value? "PS4").getD ""
  let start ← match (Reader.ofText start s.nextDocument).asDocument with
    | .ok (w, _) => do
      modify fun s => { s with options := s.options.filter (· ≠ 'x') }
      let text ← expandDocument run w
      modify fun t => { t with options := s.options }
      pure text
    | .error _ => pure start
  let _ ← tell fd (start ++ String.intercalate " " texts ++ "\n")

/-- Works as long as it takes to handle long words. -/
def tireOf (size : Nat) : Work Unit := do
  if size > 1000 then System.labor (8 * size)

/-- Gives variables their values before a command, which knows them alone unless they are
to remain. The result is the assignments as they are traced. -/
def assignAll (run : Runner) (forCommand exported : Bool) :
    List (String × Word) → Work (List String)
  | [] => return []
  | (name, w) :: rest => do
    let value ← expandValue run w
    tireOf value.utf8ByteSize
    if forCommand then makeLocal true name (some value)
    else
      assign name value
      if exported then changeVar name fun v => { v with exported := true }
    return (name ++ "=" ++ value) :: (← assignAll run forCommand exported rest)

/-- Runs a program as one of its own, or in place of the shell. -/
def runProgram (self : Perform) (last : Bool) (dirs : Option String) (args : List String) :
    Work Unit := do
  if last && (← get).traps.all fun t => t.2 = "" then launch self dirs args
  else setStatus (← runChild (launch self dirs args))

/-- Runs the command that arguments are. -/
def runArgs (self : Perform) (last tested : Bool) (h : Head) (args : List String) :
    Work Unit := do
  match args with
  | [] => setStatus (← get).outputStatus
  | name :: rest =>
    let dirs := h.dirs <|> searchDirs (← get)
    match look (← System.tree) (← get) h.functions dirs name with
    | .builtin => do
      try callBuiltin self tested name rest
      catch
        | .wrong => if h.special.getD false then throw .wrong
        | stop => throw stop
    | .function body => callFunction self tested body rest
    | .program _ => do
      if h.dirs.isNone then remember name
      runProgram self last dirs args
    | .missing e => do
      warn (name ++ ": " ++ reasonFor "not found" e)
      setStatus 127

/-- Undoes what was done for a command alone, and then stops if it was stopped. Local
variables remain if the shell ends. -/
def afterCommand (locals : Nat) (w : Work Unit) (undo : Work Unit) : Work Unit := do
  try w
  catch
    | .exit => do
      undo
      throw .exit
    | .wrong => do
      undo
      throw .wrong
    | stop => do
      undo
      leaveLocals locals
      throw stop
  undo
  leaveLocals locals

/-- Runs a simple command. -/
def runSimple (self : Perform) (last tested : Bool) (line : Nat)
    (assignments : List (String × Word)) (words : List Word) (redirects : List Redirect) :
    Work Unit := do
  let run := outputOf self
  modify fun s => { s with line := line, outputStatus := 0 }
  let (args, words) ← Head.fill run 0 [] words
  let h ← Head.pass run manyRounds ⟨args, [], words, true, none, none⟩
  let args ← h.expandRest run
  tireOf (args.foldl (fun n a => n + a.utf8ByteSize) 0)
  let name := h.args.head?.getD ""
  let isOwn := h.special.isSome && isBuiltin name
  let replaces := isOwn && name = "exec"
  let forCommand := !args.isEmpty && !h.special.getD false
  let depth := (← get).locals.length
  if forCommand then modify fun s => { s with locals := [] :: s.locals }
  let targets ← findTargets run [] redirects
  let traced := (← get).has 'x'
  let traceStream := if targets.any (·.fd = 2) then ownStreams + 3 else 2
  let undo : Work Unit := do
    if !targets.isEmpty then
      if replaces then System.forget else System.restore
  let work : Work Unit := do
    if !targets.isEmpty then
      System.keep
      if traced && traceStream ≠ 2 then
        let _ ← System.duplicate traceStream 2
    if !(← redirectAll run targets) then
      setStatus 2
      if h.special.getD false then throw .wrong
    else
      let shown ← assignAll run forCommand (replaces && args.length > 1) assignments
      if traced then
        trace run traceStream (shown ++ h.passed ++ args)
        if traceStream ≠ 2 then System.detach traceStream
      runArgs self last tested h args
  afterCommand depth work undo

end CrateGraph.Shell
