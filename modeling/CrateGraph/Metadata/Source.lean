import CrateGraph.Config
import CrateGraph.Log
import CrateGraph.Metadata
import CrateGraph.Process.Execution

/-!
# Sources of metadata

A source describes the packages of a workspace. It may do so differently each time it is
asked, or fail, so it has a state of its own. The usual source runs the metadata tool in the
root of the workspace and reads what the tool writes.

A failure is told of and then counts as no metadata: the caller goes on without.
-/

namespace CrateGraph.Metadata

/-- Why the metadata of a workspace could not be had. -/
inductive FetchError where
  /-- There is no such tool in the search path. -/
  | toolNotFound (program : String)
  | process (e : ProcessError)
  /-- The tool ended with a status other than success. -/
  | exit (command status errorText : String)
  /-- The tool's output is no metadata. -/
  | output (e : Metadata.Error)
deriving DecidableEq, Repr

/-- The error in words. -/
def FetchError.message : FetchError → String
  | .toolNotFound program => "metadata tool `" ++ program ++ "` not found in PATH"
  | .process e => e.message
  | .exit command status errorText =>
    "`" ++ command ++ "` exited with " ++ status ++ ": " ++ errorText
  | .output e => e.message

/-- A source of metadata, whose state is of type `σ`. -/
structure Source (σ : Type) where
  name : String
  /-- The machine that the source is on. -/
  machine : σ → Machine
  /-- Describes the workspace at a root, and tells what it does for that. -/
  fetch : Path → σ → (Except FetchError Workspace × List Event) × σ

/-- The packages of the workspace at a root, if they can be had. -/
def Source.tryFetch {σ : Type} (source : Source σ) (root : Path) (state : σ) :
    (Option Workspace × List Event) × σ :=
  let ((result, events), state) := source.fetch root state
  match result with
  | .ok w => ((some w, events ++ [.fetched source.name w.packages.length]), state)
  | .error e => ((none, events ++ [.fetchFailed source.name e.message]), state)

/-- The metadata tool, and how it is run. -/
structure Tool where
  program : Path
  /-- The version of the document format to ask for. -/
  version : UInt32
  /-- Whether to leave out the packages that the workspace depends on. -/
  withoutDeps : Bool
  limits : Limits
deriving DecidableEq, Repr

namespace Tool

/-- The tool that settings ask for. -/
def ofSettings (s : MetadataSettings) : Tool where
  program := s.toolProgram
  version := s.requestedVersion
  withoutDeps := s.withoutDeps
  limits := ⟨s.outputBudget, s.timeout?.map fun secs => secs.toNat * 1000000000⟩

/-- The name of the tool as a source. -/
def sourceName : String := "cargo metadata"

/-- How the tool is run in a root. -/
def invocation (t : Tool) (program root : Path) : Invocation where
  program := program
  args := ["metadata", "--format-version", toString t.version.toNat]
    ++ if t.withoutDeps then ["--no-deps"] else []
  dir := some root

/-- Whether a path leads to a file that can be run. -/
def isRunnable (m : Machine) (p : Path) : Bool :=
  match m.tree.stat m.cwd p with
  | .ok (.file _ mode) => mode.executable
  | .ok (.program _) => true
  | _ => false

/-- The path of the tool. A name alone is looked for in the search path; anything else is a
path already. -/
def resolve (m : Machine) (program : Path) : Option Path :=
  if program.components.length > 1 then some program
  else if program.bytes = [] || program.bytes.contains Path.slash then none
  else (m.searchPath.map (·.join program)).find? (isRunnable m)

/-- The packages that the tool's output describes, if it did what it was asked to do. -/
def read (t : Tool) (c : Invocation) (o : Output) : Except FetchError Workspace :=
  if o.status.success then (parse o.out t.version.toNat).mapError .output
  else .error (.exit c.display o.status.message (Text.trim (Text.shown o.err)))

/-- Runs the tool in a root and reads its output. -/
def fetch (t : Tool) (root : Path) (m : Machine) :
    (Except FetchError Workspace × List Event) × Machine :=
  match resolve m t.program with
  | none => ((.error (.toolNotFound t.program.shown), []), m)
  | some program =>
    let c := t.invocation program root
    let (result, m) := m.execute c t.limits
    let w := match result with
      | .ok o => t.read c o
      | .error e => .error (.process e)
    ((w, [.running c.display root.shown]), m)

/-- The tool as a source. -/
def source (t : Tool) : Source Machine := ⟨sourceName, id, t.fetch⟩

end Tool

end CrateGraph.Metadata
