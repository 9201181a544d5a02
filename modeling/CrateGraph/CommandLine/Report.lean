import CrateGraph.CommandLine.Help
import CrateGraph.CommandLine.Session
import CrateGraph.Json.Printer

/-!
# Running a command

A command prints a JSON document, a line, or nothing, and may fail. What happens on the way
is shown beside the output, the more detailed events only on demand, and an error last.
-/

namespace CrateGraph.CommandLine

/-- Why a command failed. -/
inductive Failure where
  | load (e : LoadError)
  | inconsistent (configFile : Path) (e : ConfigError)
  | noPackages (root : Path)
  /-- Crates on the allow-list are not in the workspace. -/
  | missing (names : List String) (configFile : Path)
  | write (e : WriteError)

/-- The failure in words. -/
def Failure.message : Failure → String
  | .load e => e.message
  | .inconsistent configFile e =>
    "invalid configuration in " ++ configFile.shown ++ ": " ++ e.message
  | .noPackages root =>
    "no workspace packages found in " ++ root.shown
      ++ "\nhelp: Run with --verbose to see why `cargo metadata` failed"
  | .missing names configFile =>
    "allow-listed crates not found in the workspace: " ++ Text.join ", " names
      ++ "\nhelp: Remove them from [graph].explicit in " ++ configFile.shown
  | .write e => e.message

/-- What a command printed, or why it failed. -/
abbrev Answer := Except Failure String

/-- A document as it is printed. -/
def document (v : Value) : String := Json.pretty v ++ "\n"

/-- Prints the nodes. -/
def printNodes (s : Session) (y : Synchronizer Machine) : Sync Machine Answer := do
  let graph ← y.nodes s.root
  return .ok (document graph.fragment.encode)

/-- Prints the edges. -/
def printEdges (s : Session) (y : Synchronizer Machine) : Sync Machine Answer := do
  let graph ← y.nodes s.root
  let edges ← y.dependencies s.root graph
  return .ok (document (.list (edges.map Edge.encode)))

/-- Writes a text to a file on the machine of the source. -/
def writeFile (path : Path) (text : String) : Sync Machine Answer := do
  let (result, m) := (Machine.writeText path text).run (← get).source
  modify fun p => { p with source := m }
  match result with
  | .ok () =>
    Synchronizer.tell [.wrote path.shown]
    return .ok ""
  | .error e => return .error (.write e)

/-- Prints nodes and edges, or writes them to a file. -/
def printAll (s : Session) (y : Synchronizer Machine) (output : Option Path) :
    Sync Machine Answer := do
  let result ← y.synchronize s.root
  match output with
  | some path => writeFile (s.context.cwd.join path) (Json.pretty result.encode)
  | none => return .ok (document result.encode)

/-- Checks the configuration against the workspace. -/
def checkWorkspace (s : Session) (y : Synchronizer Machine) : Sync Machine Answer := do
  let w ← y.metadata s.root
  if w.packages.isEmpty then return .error (.noPackages s.root)
  let missing ← y.missingExplicit s.root
  if !missing.isEmpty then return .error (.missing missing s.configFile)
  let graph ← y.nodes s.root
  return .ok ("ok: " ++ toString graph.size ++ " projects ("
    ++ toString graph.materializedCount ++ " materialized)\n")

/-- Runs a command. -/
def perform (s : Session) (y : Synchronizer Machine) : Command → Sync Machine Answer
  | .nodes => printNodes s y
  | .deps => printEdges s y
  | .sync output => printAll s y output
  | .policy => return .ok (document y.policy.encode)
  | .check => checkWorkspace s y
  | .completions shell => return .ok (completionText shell)

/-- Finds what a command works with and runs it. -/
def execute (m : Machine) (o : Options) : Answer × List Event × Machine :=
  match Session.ofOptions m o with
  | (.error e, events) => (.error (.load e), events, m)
  | (.ok s, events) =>
    match s.synchronizer with
    | .error e => (.error (.inconsistent s.configFile e), events, m)
    | .ok y =>
      let (answer, p) := (perform s y o.command).run (.start m)
      (answer, events ++ p.events, p.source)

/-- A character of a message. One that a terminal would take as the start of a command is
written as its number. -/
def harmlessChar (c : Char) : String :=
  let n := c.toNat
  if c = '\x1b' || c = '\x07' || c = '\x08' || c = '\x0c' || c = '\x7f' then
    "\\x" ++ (if n < 16 then "0" else "") ++ String.ofList (Nat.toDigits 16 n)
  else if 0x80 ≤ n && n ≤ 0x9f then String.ofList (Text.numbered c)
  else c.toString

/-- A message as it may be shown on a terminal. -/
def harmless (s : String) : String := String.join (s.toList.map harmlessChar)

/-- The name of a level, as wide as any of them. -/
def levelName : Level → String
  | .debug => "DEBUG"
  | .info => " INFO"
  | .warn => " WARN"

/-- Whether an event is shown. -/
def isShown (verbose : Bool) (e : Event) : Bool := verbose || e.level ≠ .debug

/-- An event as it is shown. -/
def eventLine (e : Event) : String := levelName e.level ++ " " ++ harmless e.message ++ "\n"

/-- What a run of the program leaves. -/
structure Outcome where
  code : Nat
  /-- What was printed. -/
  out : String
  /-- What was told beside that. -/
  err : String
  machine : Machine

/-- Runs a command that was asked for. -/
def runOptions (m : Machine) (o : Options) : Outcome :=
  match o.command with
  | .completions shell => ⟨0, completionText shell, "", m⟩
  | _ =>
    let (answer, events, m) := execute m o
    let told := String.join ((events.filter (isShown o.verbose)).map eventLine)
    match answer with
    | .ok text => ⟨0, text, told, m⟩
    | .error e => ⟨1, "", told ++ "error: " ++ e.message ++ "\n", m⟩

/-- Runs the program. -/
def run (m : Machine) (args : List String) : Outcome :=
  match parse args with
  | .ok o => runOptions m o
  | .error .help => ⟨0, helpText, "", m⟩
  | .error .version => ⟨0, versionText, "", m⟩
  | .error .usage => ⟨2, "", usageText, m⟩

end CrateGraph.CommandLine
