import CrateGraph.Log
import CrateGraph.Node

/-!
# From names to projects

Manifests know a crate by its own name, the orchestrator knows it by its project name, and
the two differ for every crate that has no targets. A resolver leads from either to the
project name.

A project name always leads to its own project, even where it was already the name of a
crate. Apart from that a name stays with the first project that claims it.
-/

namespace CrateGraph

/-- What a name is to the project it leads to. -/
inductive AliasKind where
  /-- The name of its crate. -/
  | package
  /-- The name of the project itself. -/
  | project
deriving DecidableEq, Repr

/-- Where a name leads. -/
structure Alias where
  project : String
  kind : AliasKind
deriving DecidableEq, Repr

/-- Where each name leads. -/
structure Resolver where
  aliases : Table Alias
deriving DecidableEq, Repr

namespace Resolver

/-- The resolver that knows no name. -/
def empty : Resolver := ⟨.empty⟩

/-- Whether a name that has a holder is given to a claimant all the same. -/
def gives (holder claimant : Alias) : Bool :=
  holder.kind = .package && claimant.kind = .project

/-- Lets a name lead to a project, unless it stays with another. -/
def claim (r : Resolver) (name : String) (claimant : Alias) : Resolver :=
  match r.aliases.find? name with
  | none => ⟨r.aliases.insert name claimant⟩
  | some holder => if gives holder claimant then ⟨r.aliases.insert name claimant⟩ else r

/-- The names of a node, and what they are to it. A crate name that is empty or the same as
the project name is none. -/
def names (n : Node) : List (String × Alias) :=
  (n.name, ⟨n.name, .project⟩) ::
    if n.packageName ≠ "" ∧ n.packageName ≠ n.name then
      [(n.packageName, ⟨n.name, .package⟩)]
    else []

/-- Lets the names of a node lead to it. -/
def register (r : Resolver) (n : Node) : Resolver :=
  (names n).foldl (fun r e => r.claim e.1 e.2) r

/-- The resolver of nodes in the order in which they claim their names. -/
def ofNodes (nodes : List Node) : Resolver := nodes.foldl register empty

/-- The project that a name leads to. -/
def resolve? (r : Resolver) (name : String) : Option String :=
  (r.aliases.find? name).map (·.project)

/-- The number of names that lead anywhere. -/
def size (r : Resolver) : Nat := r.aliases.size

/-- What is told when a node registers: the names of it that stay with another project. -/
def kept (r : Resolver) (n : Node) : List Event :=
  (names n).filterMap fun e =>
    match r.aliases.find? e.1 with
    | none => none
    | some holder =>
      if !gives holder e.2 && holder.project ≠ e.2.project then
        some (.aliasKept e.1 holder.project e.2.project)
      else none

end Resolver

end CrateGraph
