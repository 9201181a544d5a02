import CrateGraph.Config
import CrateGraph.Package
import CrateGraph.Path.Relative
import CrateGraph.Resolver

/-!
# The project graph

Every package inside the workspace becomes one node, keyed by the directory of its
manifest. Crates on the allow-list get targets to build, test and lint them; all others
become implicit nodes. Of several packages with one root the first is kept, and each of
the others is told of.
-/

namespace CrateGraph

/-- Nodes by their roots, and the resolver of their names. -/
structure ProjectGraph where
  nodes : Table Node
  resolver : Resolver
deriving DecidableEq, Repr

namespace ProjectGraph

/-- The graph without nodes. -/
def empty : ProjectGraph := ⟨.empty, .empty⟩

instance : Inhabited ProjectGraph := ⟨empty⟩

/-- The first node, by root, with a project name. -/
def nodeByName? (g : ProjectGraph) (name : String) : Option Node :=
  g.nodes.values.find? fun n => n.name = name

/-- The first node, by root, that was made from a crate. -/
def nodeByPackage? (g : ProjectGraph) (package : String) : Option Node :=
  g.nodes.values.find? fun n => n.packageName = package

/-- The number of nodes. -/
def size (g : ProjectGraph) : Nat := g.nodes.size

/-- Whether there is no node. -/
def isEmpty (g : ProjectGraph) : Bool := g.nodes.isEmpty

/-- The number of nodes with targets. -/
def materializedCount (g : ProjectGraph) : Nat := g.nodes.values.countP Node.isMaterialized

/-- The nodes as they are handed to the orchestrator. -/
def fragment (g : ProjectGraph) : Fragment := ⟨g.nodes, .empty⟩

end ProjectGraph

/-- The directory of sources below the root of a node. -/
def sourceRootOf (root : String) : String := Path.joinRoot root "src"

/-- The targets of a crate at a root. -/
def crateTargets (c : Config) (root : String) : Table Target :=
  let inputs := (Glob.projectRoot ++ "/**/*") :: c.sources.nativeSources
  let build := (Target.ofExecutor c.targets.buildExecutor).withCommand c.targets.buildCommand root
    |>.withInputs inputs |>.withOutputs c.targets.outputs
  Table.empty.insert Target.build build
    |>.insert Target.test (.ofExecutor c.targets.testExecutor)
    |>.insert Target.lint (.ofExecutor c.targets.lintExecutor)

/-- The node of a crate that gets targets. -/
def materializedNode (c : Config) (p : Package) (root : String) : Node where
  root := root
  name := c.graph.materializedName p.name
  sourceRoot := sourceRootOf root
  kind := .library
  implicit := false
  targets := crateTargets c root
  tags := c.targets.tags
  packageName := p.name

/-- The node of a crate that gets none. -/
def structuralNode (c : Config) (p : Package) (root : String) : Node where
  root := root
  name := c.graph.structuralName p.name
  sourceRoot := sourceRootOf root
  kind := .library
  implicit := true
  targets := .empty
  tags := c.targets.structuralTags
  packageName := p.name

/-- The root of a package, from the root of its workspace. -/
def rootOf (workspaceRoot : Path) (p : Package) : String :=
  Path.relativeTo p.manifestDir workspaceRoot

/-- The node of a package. -/
def nodeOf (workspaceRoot : Path) (c : Config) (p : Package) : Node :=
  let root := rootOf workspaceRoot p
  if c.graph.isExplicit p.name then materializedNode c p root else structuralNode c p root

/-- A graph in the making, and what was told about it. -/
structure Building where
  graph : ProjectGraph
  events : List Event

namespace Building

/-- Adds a node, unless there is one with its root. -/
def add (b : Building) (n : Node) : Building :=
  match b.graph.nodes.find? n.root with
  | some kept =>
    { b with events := b.events ++ [.sharedRoot kept.packageName n.packageName n.root] }
  | none =>
    { graph := ⟨b.graph.nodes.insert n.root n, b.graph.resolver.register n⟩
      events := b.events ++ .nodeAdded n.isMaterialized n.name n.root :: b.graph.resolver.kept n }

end Building

/-- Tells of the crates on the allow-list that have no node. -/
def missingNodes (c : Config) (g : ProjectGraph) : List Event :=
  (c.graph.explicit.filter fun package => (g.nodeByPackage? package).isNone).map .explicitMissing

/-- Makes the graph of a workspace, and tells about it. -/
def buildNodes (workspaceRoot : Path) (w : Workspace) (c : Config) : ProjectGraph × List Event :=
  let b := (w.members.map (nodeOf workspaceRoot c)).foldl Building.add ⟨.empty, []⟩
  (b.graph, b.events ++ missingNodes c b.graph)

end CrateGraph
