import CrateGraph.Edge
import CrateGraph.Graph

/-!
# The edges of the project graph

An edge is drawn from the project of a package to the project of each package that it
depends on, in the order of the packages and of their declarations. A dependency on
something that is no project, or on the package's own project, is dropped, and a pair that
is declared several times has one edge, from the first declaration. Cycles are drawn as
they are declared: to refuse them is up to the orchestrator.
-/

namespace CrateGraph

/-- Whether edges lead from a project to another. -/
def connects (edges : List Edge) (source target : String) : Bool :=
  edges.any fun e => e.source = source && e.target = target

/-- Draws the edge of a declared dependency, unless it is dropped or already there. -/
def addEdge (r : Resolver) (source sourceFile : String) (edges : List Edge)
    (dependency : String) : List Edge :=
  match r.resolve? dependency with
  | none => edges
  | some target =>
    if target = source || connects edges source target then edges
    else edges ++ [⟨source, target, .static, sourceFile⟩]

/-- Draws the edges of a package. -/
def addEdges (r : Resolver) (workspaceRoot : Path) (edges : List Edge) (p : Package) :
    List Edge :=
  match r.resolve? p.name with
  | none => edges
  | some source =>
    p.dependencies.foldl (addEdge r source (Path.relativeTo p.manifestPath workspaceRoot)) edges

/-- The edges of a workspace between the nodes of a graph. -/
def buildEdges (workspaceRoot : Path) (w : Workspace) (g : ProjectGraph) : List Edge :=
  w.members.foldl (addEdges g.resolver workspaceRoot) []

end CrateGraph
