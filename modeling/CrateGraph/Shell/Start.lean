import CrateGraph.Shell.Evaluation

/-!
# Starting a shell

A shell that is started reads its settings and finds its script: an argument, a file, or
what it can read. It gets its variables from whoever started it, and those that every shell
has.
-/

namespace CrateGraph.Shell

/-- The variables of a shell that are there if nobody gives it others. -/
def usualVars : List (String × String) :=
  [("PATH", defaultPath), ("PS1", "# "), ("PS2", "> "), ("PS4", "+ ")]

/-- Gives the shell a variable, whatever it was before. -/
def putValue (name value : String) (exported : Bool) : Work Unit :=
  modify fun s => s.putVar ⟨name, some value, exported, false⟩

/-- Prepares the variables of a shell. -/
def prepareVars : Work Unit := do
  modify fun s => { s with vars := s.vars.filter fun v => isName v.name }
  for (name, value) in usualVars do
    if ((← get).var? name).isNone then putValue name value false
  let s ← get
  let exported := fun (name : String) => (s.var? name).any (·.exported)
  putValue "IFS" " \t\n" (exported "IFS")
  putValue "OPTIND" "1" (exported "OPTIND")
  putValue "PPID" (toString s.parent) (exported "PPID")
  let t ← System.tree
  let there := Text.raw (FileTree.pathOf s.cwd).bytes
  let text := match s.value? "PWD" with
    | some path =>
      if path.toList.head? = some '/' && (t.locate s.cwd (pathOf path)).toOption = some s.cwd
      then path else there
    | none => there
  modify fun s => { s with cwdText := text }
  putValue "PWD" text true

/-! ## Scripts that are read -/

/-- A command that ends what is known of a script, as long as more may follow. -/
def guardText : List Char := ['X', '\n']

/-- The next command of a script of which more may follow, if it is complete. -/
def completeCommand (r : Reader) : Work (Option (Reading.Extract × Reader)) := do
  if r.rest.getLast? ≠ some '\n' then return none
  else
    let s ← get
    let guarded :=
      { r with
        rest := r.rest ++ guardText, aliases := s.aliases, documents := [],
        nextDocument := s.nextDocument }
    match guarded.nextCommand with
    | .ok (.command c, r) =>
      if r.rest.length < guardText.length then return none
      else
        modify fun s =>
          { s with documents := r.documents ++ s.documents, nextDocument := r.nextDocument }
        let rest := r.rest.take (r.rest.length - guardText.length)
        return some (.command c, { r with rest := rest })
    | _ => return none

/-- Runs the commands that can be read from a stream. -/
def runInput (self : Perform) (fd : Nat) : Nat → Bool → Reader → Work Unit
  | 0, _, _ => return ()
  | rounds + 1, complete, r => do
    let next ← if complete then do pure (some (← nextOf r)) else completeCommand r
    match next with
    | none =>
      match ← System.read fd 8192 none with
      | .ok (b :: bytes) =>
        let text := (Text.raw (b :: bytes)).toList
        runInput self fd rounds false { r with rest := r.rest ++ text }
      | _ => runInput self fd rounds true r
    | some (.ended, _) => return ()
    | some (.command c, r') => do
      if (← get).has 'v' then
        complain (String.ofList (r.rest.take (r.rest.length - r'.rest.length)))
      if !(← get).has 'n' then self (.command c false false)
      runInput self fd rounds complete r'

/-! ## The shell as a program -/

/-- Runs a shell. -/
def runShell (self : Perform) : Work Unit :=
  asShell self do
    prepareVars
    modify fun s => { s with line := 0 }
    let s ← get
    let r ← readSettings true (s.args.length + 1) s.args
    let setArgs := fun (name : String) (args : List String) =>
      (modify fun s => { s with name := name, args := args } : Work Unit)
    let input : Reader := .ofText "" 0
    if r.marked then
      match r.args with
      | [] => refuse "-c requires an argument"
      | script :: rest => do
        match rest with
        | [] => setArgs s.name []
        | name :: args => setArgs name args
        let fromInput := (← get).has 's'
        let _ ← runText self (!fromInput) false script
        if fromInput then runInput self 0 manyRounds false input
    else
      match r.args, (← get).has 's' with
      | path :: args, false => do
        let fd := ownStreams + 4
        match ← openPath fd path .read with
        | .error e => refuse ("cannot open " ++ path ++ ": " ++ reasonFor "No such file" e)
        | .ok () => do
          setArgs path args
          let bytes := (← readAll fd).toOption.getD []
          System.detach fd
          runInput self 0 manyRounds true { input with rest := (Text.raw bytes).toList }
      | args, _ => do
        setArgs s.name args
        switch true 's'
        runInput self 0 manyRounds false input

end CrateGraph.Shell
