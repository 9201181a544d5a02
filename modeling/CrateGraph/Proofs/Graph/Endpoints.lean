import CrateGraph.Proofs.Graph.Edges
import CrateGraph.Proofs.Synchronizer.Operation

/-!
# The ends of edges

A graph keeps its nodes in one table and where their names lead in another, and the two are
filled side by side. A node that is passed over has to leave both as they are, or its names
would lead to a project that is not there. No graph that can be had is of that kind, so
whichever workspace its edges are drawn for, they lead between its own nodes.

## Main results

* `obtainable_nodes` — what a synchronizer makes is a graph that can be had.
* `leadsToNodes_of_obtainable` — the names that such a graph knows lead to its nodes.
* `endsAreNodes_of_obtainable` — and so do the edges that are drawn in it.
-/

namespace CrateGraph

namespace ProjectGraph

/-- The graphs that can be had: the one without nodes, and those made of a workspace. -/
inductive Obtainable : ProjectGraph → Prop
  | empty : Obtainable .empty
  | built (workspaceRoot : Path) (w : Workspace) (c : Config) :
      Obtainable (buildNodes workspaceRoot w c).1

/-- Whatever a graph leads a name to is the project of one of its nodes. -/
def LeadsToNodes (g : ProjectGraph) : Prop :=
  ∀ name project, g.resolver.resolve? name = some project → ∃ n ∈ g.nodes.values, n.name = project

/-- The edges in a graph lead between its nodes, whichever workspace declares them. -/
structure EndsAreNodes (g : ProjectGraph) : Prop where
  resolved : g.LeadsToNodes
  source : ∀ workspaceRoot w, ∀ e ∈ buildEdges workspaceRoot w g,
    ∃ n ∈ g.nodes.values, n.name = e.source
  target : ∀ workspaceRoot w, ∀ e ∈ buildEdges workspaceRoot w g,
    ∃ n ∈ g.nodes.values, n.name = e.target
  noNodes : g.isEmpty = true → ∀ workspaceRoot w, buildEdges workspaceRoot w g = []

/-! ## Graphs that can be had -/

/-- A synchronizer makes no other graphs, whatever it has done before. -/
theorem obtainable_nodes {σ : Type} (s : Synchronizer σ) (root : Path) (p : Progress σ) :
    Obtainable ((s.nodes root).run p).1 := by
  obtain ⟨w, p', h⟩ : ∃ w p', (s.metadata root).run p = (w, p') := ⟨_, _, rfl⟩
  rw [Synchronizer.run_nodes h]
  exact .built _ w s.config

theorem leadsToNodes_of_obtainable {g : ProjectGraph} (h : g.Obtainable) : g.LeadsToNodes := by
  intro name project hname
  cases h with
  | empty => cases hname
  | built workspaceRoot w c =>
      obtain ⟨n, hn, hproject, -⟩ := exists_node_of_resolve? hname
      exact ⟨n, hn, hproject⟩

/-! ## Edges in a graph -/

variable {g : ProjectGraph} {workspaceRoot : Path} {w : Workspace} {e : Edge}

/-- The two ends of an edge are where its graph leads a package and its dependency. -/
theorem exists_nodes_of_mem_buildEdges (h : g.LeadsToNodes)
    (he : e ∈ buildEdges workspaceRoot w g) :
    (∃ n ∈ g.nodes.values, n.name = e.source) ∧ ∃ n ∈ g.nodes.values, n.name = e.target := by
  obtain ⟨p, -, hs, -, d, -, ht, -⟩ :=
    (mem_declaredEdges_iff _ _ _ _).1 (mem_declaredEdges_of_mem_buildEdges he)
  exact ⟨h p.name e.source hs, h d e.target ht⟩

theorem buildEdges_of_isEmpty (h : g.LeadsToNodes) (hempty : g.isEmpty = true) :
    buildEdges workspaceRoot w g = [] := by
  have hnone : g.nodes.entries = [] := List.isEmpty_iff.1 hempty
  rw [List.eq_nil_iff_forall_not_mem]
  intro e he
  obtain ⟨⟨n, hn, -⟩, -⟩ := exists_nodes_of_mem_buildEdges h he
  simp [Table.values, hnone] at hn

theorem endsAreNodes_of_obtainable (h : g.Obtainable) : g.EndsAreNodes where
  resolved := leadsToNodes_of_obtainable h
  source _ _ _ he := (exists_nodes_of_mem_buildEdges (leadsToNodes_of_obtainable h) he).1
  target _ _ _ he := (exists_nodes_of_mem_buildEdges (leadsToNodes_of_obtainable h) he).2
  noNodes hempty _ _ := buildEdges_of_isEmpty (leadsToNodes_of_obtainable h) hempty

/-- A workspace in which the project of the second crate has the name of the first crate, and
the third crate has the root of the first. -/
def crowdedWorkspace : Workspace :=
  ⟨[⟨"legacy", .ofText "/ws/legacy/Cargo.toml", ["stub"], none⟩,
    ⟨"legacy_v2", .ofText "/ws/v2/Cargo.toml", ["legacy"], none⟩,
    ⟨"stub", .ofText "/ws/legacy/Cargo.toml", [], none⟩]⟩

/-- A configuration that calls the second crate like the first. -/
def crowdedConfig : Config :=
  { Config.default with
    graph := ⟨"rust:", ["legacy_v2"], Table.empty.insert "legacy_v2" "legacy"⟩ }

/-- Another workspace that depends on the crates of that one, also on the one without a node. -/
def dependentWorkspace : Workspace :=
  ⟨[⟨"rust:legacy", .ofText "/other/a/Cargo.toml", ["stub", "legacy", "legacy_v2"], none⟩]⟩

theorem endsAreNodes_crowded :
    (buildNodes (.ofText "/ws") crowdedWorkspace crowdedConfig).1.Obtainable ∧
      (buildNodes (.ofText "/ws") crowdedWorkspace crowdedConfig).1.EndsAreNodes ∧
      buildEdges (.ofText "/other") dependentWorkspace
          (buildNodes (.ofText "/ws") crowdedWorkspace crowdedConfig).1 =
        [⟨"rust:legacy", "legacy", .static, "a/Cargo.toml"⟩] :=
  ⟨.built _ _ _, endsAreNodes_of_obtainable (.built _ _ _), by decide +kernel⟩

end ProjectGraph

end CrateGraph
