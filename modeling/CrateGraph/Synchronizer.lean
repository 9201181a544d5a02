import CrateGraph.Config.Consistency
import CrateGraph.Graph.Edges
import CrateGraph.Metadata.Source
import CrateGraph.Policy.Triggers

/-!
# Synchronizing a workspace

A synchronizer holds a consistent configuration and a source of metadata. Nodes and edges
are made from what the source says, which is asked at most once for each root: what it said
is kept, and a failure is kept as a workspace without packages. Two paths are one root when
their normalized forms take the same steps.
-/

namespace CrateGraph

/-- A consistent configuration and a source of metadata. -/
structure Synchronizer (σ : Type) where
  config : Config
  source : Metadata.Source σ
  consistent : config.validate = .ok ()

/-- What a synchronizer knows and has done so far. -/
structure Progress (σ : Type) where
  /-- The state of the source. -/
  source : σ
  /-- What the source said about each root. -/
  known : List (Path × Workspace)
  /-- The roots that the source was asked about, in order. -/
  asked : List Path
  /-- What was told, in order. -/
  events : List Event

/-- The progress before anything was done. -/
def Progress.start {σ : Type} (source : σ) : Progress σ := ⟨source, [], [], []⟩

/-- What is known about a root. -/
def Progress.known? {σ : Type} (p : Progress σ) (root : Path) : Option Workspace :=
  (p.known.find? fun k => k.1.Same root).map (·.2)

/-- Asks the source about a normalized root, and keeps what it says. -/
def Progress.ask {σ : Type} (source : Metadata.Source σ) (root : Path) (p : Progress σ) :
    Workspace × Progress σ :=
  let ((found, events), state) := source.tryFetch root p.source
  let w := found.getD .empty
  (w, {
    source := state
    known := p.known ++ [(root, w)]
    asked := p.asked ++ [root]
    events := p.events ++ events })

/-- Something that a synchronizer does. -/
abbrev Sync (σ : Type) := StateM (Progress σ)

/-- Nodes and edges of a workspace. -/
structure SyncResult where
  graph : Fragment
  dependencies : List Edge
deriving DecidableEq, Repr

namespace SyncResult

/-- Whether there is nothing in it. -/
def isEmpty (r : SyncResult) : Bool := r.graph.isEmpty && r.dependencies.isEmpty

/-- The result as a tree, with what the fragment holds beside the edges. -/
def encode (r : SyncResult) : Value :=
  .table (r.graph.entries ++ [("dependencies", .list (r.dependencies.map Edge.encode))])

end SyncResult

namespace Synchronizer

variable {σ : Type}

/-- The synchronizer of a configuration, if it is consistent. -/
def ofConfig (config : Config) (source : Metadata.Source σ) :
    Except ConfigError (Synchronizer σ) :=
  match h : config.validate with
  | .ok () => .ok ⟨config, source, h⟩
  | .error e => .error e

/-- Tells something. -/
def tell (events : List Event) : Sync σ Unit :=
  modify fun p => { p with events := p.events ++ events }

/-- The normalized form of a root. -/
def normalize (s : Synchronizer σ) (root : Path) : Sync σ Path := do
  return (s.source.machine (← get).source).normalize root

/-- The packages of the workspace at a root. -/
def metadata (s : Synchronizer σ) (root : Path) : Sync σ Workspace := do
  let root ← s.normalize root
  match (← get).known? root with
  | some w => return w
  | none => modifyGet (Progress.ask s.source root)

/-- The graph of the workspace at a root. -/
def nodes (s : Synchronizer σ) (root : Path) : Sync σ ProjectGraph := do
  let w ← s.metadata root
  let (graph, events) := buildNodes (← s.normalize root) w s.config
  tell events
  return graph

/-- The edges of the workspace at a root between the nodes of a graph. -/
def dependencies (s : Synchronizer σ) (root : Path) (graph : ProjectGraph) :
    Sync σ (List Edge) := do
  let w ← s.metadata root
  return buildEdges (← s.normalize root) w graph

/-- What is told about a graph that was made. -/
def summary (graph : ProjectGraph) (edges : List Edge) : Event :=
  if graph.isEmpty then .nothingToDo
  else .synchronized graph.size graph.materializedCount edges.length

/-- The nodes and the edges of the workspace at a root. -/
def synchronize (s : Synchronizer σ) (root : Path) : Sync σ SyncResult := do
  let graph ← s.nodes root
  let edges ← s.dependencies root graph
  tell [summary graph edges]
  return ⟨graph.fragment, edges⟩

/-- The policy of the configuration. -/
def policy (s : Synchronizer σ) : Policy := .ofConfig s.config

/-- The crates on the allow-list that are not in the workspace at a root. -/
def missingExplicit (s : Synchronizer σ) (root : Path) : Sync σ (List String) := do
  let w ← s.metadata root
  return s.config.graph.explicit.filter fun name => (w.member? name).isNone

end Synchronizer

end CrateGraph
