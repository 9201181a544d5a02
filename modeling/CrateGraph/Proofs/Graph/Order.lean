import CrateGraph.Proofs.Graph.Dependencies
import CrateGraph.Proofs.Synchronizer.Missing

/-!
# The order of the packages

The metadata tool lists the packages of a workspace in an order that means nothing. Three
things are done first come, first served: a root goes to its first package, a name to the
first node that claims it, and a pair of projects to the first dependency between them. If no
two packages have one root, none of this shows. Packages of one name may claim it in any
order, because the project of a package depends on its name only, and so the name leads to
the same project whoever was first.

## Main results

* `graph_buildNodes_perm` — the graph of a workspace, in whichever order it is listed.
* `ends_buildEdges_perm` — the pairs of projects between which there are edges.
* `sameInAnyOrder_of_perm` — what is made of a workspace does not depend on the order.
-/

namespace CrateGraph

/-- The same is made of two workspaces at a root, but for the order of the edges and the
manifests that they name. -/
structure SameInAnyOrder (workspaceRoot : Path) (w w' : Workspace) (c : Config) : Prop where
  nodes : (buildNodes workspaceRoot w c).1.nodes = (buildNodes workspaceRoot w' c).1.nodes
  resolved : ∀ name, (buildNodes workspaceRoot w c).1.resolver.resolve? name =
    (buildNodes workspaceRoot w' c).1.resolver.resolve? name
  missing : ReportedAlike c w w'
  connected : ((buildEdges workspaceRoot w (buildNodes workspaceRoot w c).1).map Edge.ends).Perm
    ((buildEdges workspaceRoot w' (buildNodes workspaceRoot w' c).1).map Edge.ends)

variable {workspaceRoot : Path} {w w' : Workspace} {c : Config}

/-! ## Packages and nodes -/

theorem members_perm (h : w.packages.Perm w'.packages) : w.members.Perm w'.members :=
  h.filter _

theorem nodesOf_perm (h : w.packages.Perm w'.packages) :
    (nodesOf workspaceRoot w c).Perm (nodesOf workspaceRoot w' c) :=
  (members_perm h).map _

/-- The project of a node depends on the name of its crate only. -/
theorem name_eq_of_packageName_eq {n m : Node} (hn : n ∈ nodesOf workspaceRoot w c)
    (hm : m ∈ nodesOf workspaceRoot w c) (h : n.packageName = m.packageName) :
    n.name = m.name := by
  obtain ⟨p, -, rfl⟩ := List.mem_map.1 hn
  obtain ⟨q, -, rfl⟩ := List.mem_map.1 hm
  rw [nodeOf_packageName, nodeOf_packageName] at h
  rw [nodeOf_name, nodeOf_name, h]

/-- Where no two packages have one root, a graph and the names that it knows do not depend on
the order of the packages. -/
theorem graph_buildNodes_perm (h : w.packages.Perm w'.packages)
    (hw : (w.members.map (rootOf workspaceRoot)).Nodup) :
    (buildNodes workspaceRoot w c).1 = (buildNodes workspaceRoot w' c).1 := by
  have hroots := nodup_root_nodesOf (c := c) hw
  have hroots' : ((nodesOf workspaceRoot w' c).map Node.root).Nodup :=
    ((nodesOf_perm h).map Node.root).nodup_iff.1 hroots
  have hnodes : (buildNodes workspaceRoot w c).1.nodes =
      (buildNodes workspaceRoot w' c).1.nodes := by
    refine Table.ext_find? fun root => ?_
    rw [find?_nodes_buildNodes, find?_nodes_buildNodes]
    exact First.find?_eq_of_perm hroots (nodesOf_perm h) root
  have hresolver : (buildNodes workspaceRoot w c).1.resolver =
      (buildNodes workspaceRoot w' c).1.resolver := by
    rw [resolver_buildNodes, resolver_buildNodes, keptNodes, keptNodes,
      First.firsts_of_nodup hroots, First.firsts_of_nodup hroots']
    exact Resolver.ofNodes_perm (nodesOf_perm h) fun n hn m hm => name_eq_of_packageName_eq hn hm
  calc (buildNodes workspaceRoot w c).1
      = ⟨(buildNodes workspaceRoot w c).1.nodes, (buildNodes workspaceRoot w c).1.resolver⟩ := rfl
    _ = (buildNodes workspaceRoot w' c).1 := by rw [hnodes, hresolver]

/-! ## Edges -/

theorem mem_ends_buildEdges_iff (w : Workspace) (g : ProjectGraph) (ends : String × String) :
    ends ∈ (buildEdges workspaceRoot w g).map Edge.ends ↔
      ends.2 ≠ ends.1 ∧ ∃ p ∈ w.members, g.resolver.resolve? p.name = some ends.1 ∧
        ∃ d ∈ p.dependencies, g.resolver.resolve? d = some ends.2 := by
  rw [← exists_mem_buildEdges_iff workspaceRoot w g, List.mem_map]
  simp only [Edge.ends, Prod.ext_iff]

/-- In one graph the same projects are connected in whichever order the packages declare it. -/
theorem ends_buildEdges_perm (h : w.packages.Perm w'.packages) (g : ProjectGraph) :
    ((buildEdges workspaceRoot w g).map Edge.ends).Perm
      ((buildEdges workspaceRoot w' g).map Edge.ends) := by
  have honce : ∀ w, ((buildEdges workspaceRoot w g).map Edge.ends).Nodup := by
    intro w
    rw [buildEdges_eq]
    exact First.nodup_firsts _
  rw [List.perm_ext_iff_of_nodup (honce w) (honce w')]
  intro ends
  rw [mem_ends_buildEdges_iff, mem_ends_buildEdges_iff]
  simp only [(members_perm h).mem_iff]

/-! ## Any order -/

theorem sameInAnyOrder_of_perm (h : w.packages.Perm w'.packages)
    (hw : (w.members.map (rootOf workspaceRoot)).Nodup) (c : Config) :
    SameInAnyOrder workspaceRoot w w' c := by
  have hgraph : (buildNodes workspaceRoot w c).1 = (buildNodes workspaceRoot w' c).1 :=
    graph_buildNodes_perm h hw
  refine ⟨congrArg ProjectGraph.nodes hgraph, fun name => by rw [hgraph], ?_, ?_⟩
  · refine reportedAlike_of_names c fun name => ?_
    exact ((members_perm h).map Package.name).mem_iff
  · rw [hgraph]
    exact ends_buildEdges_perm h _

/-- The crate `legacy` is shadowed whether it comes before the crate that shadows it or after
it. -/
theorem sameInAnyOrder_shadowed :
    shadowedWorkspace.packages.Perm shadowedWorkspace.packages.reverse ∧
      (shadowedWorkspace.members.map (rootOf (.ofText "/ws"))).Nodup ∧
      SameInAnyOrder (.ofText "/ws") shadowedWorkspace ⟨shadowedWorkspace.packages.reverse⟩
        shadowingConfig ∧
      (buildNodes (.ofText "/ws") ⟨shadowedWorkspace.packages.reverse⟩
        shadowingConfig).1.resolver.resolve?
        "legacy" = some "legacy" := by
  have hperm : shadowedWorkspace.packages.Perm shadowedWorkspace.packages.reverse :=
    (List.reverse_perm _).symm
  have hroots : (shadowedWorkspace.members.map (rootOf (.ofText "/ws"))).Nodup := by decide +kernel
  have hsame : SameInAnyOrder (.ofText "/ws") shadowedWorkspace ⟨shadowedWorkspace.packages.reverse⟩
      shadowingConfig := sameInAnyOrder_of_perm hperm hroots shadowingConfig
  refine ⟨hperm, hroots, hsame, ?_⟩
  rw [← hsame.resolved "legacy"]
  decide +kernel

end CrateGraph
