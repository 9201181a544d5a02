import CrateGraph.Graph
import CrateGraph.Proofs.Config.Consistency
import CrateGraph.Proofs.First
import CrateGraph.Proofs.Resolver

/-!
# What is in a graph

A graph is built by adding the nodes of the packages one after the other. Each step keeps
the graph equal to what its kept nodes say: the node at a root is the first kept one with
it, and the resolver is that of the kept nodes in their order. From this everything about a
finished graph follows without another look at how it was built.

## Main results

* `Building.Holds.add`, `Building.Holds.foldl` — the invariant of a step and of a run.
* `find?_nodes_buildNodes`, `resolver_buildNodes` — the two halves of a finished graph.
* `mem_values_buildNodes` — the nodes of a graph are the kept ones.
-/

namespace CrateGraph

/-! ## The invariant -/

namespace Building

/-- A graph in the making holds the given nodes, and has registered them in their order. -/
structure Holds (b : Building) (kept : List Node) : Prop where
  nodes : ∀ root, b.graph.nodes.find? root = kept.find? fun n => n.root = root
  resolver : b.graph.resolver = Resolver.ofNodes kept

variable {b : Building} {kept : List Node}

theorem holds_empty : Holds ⟨.empty, []⟩ [] := ⟨fun _ => rfl, rfl⟩

/-- A node is added exactly if its root is new. -/
theorem Holds.add (h : Holds b kept) (n : Node) :
    Holds (b.add n) (First.keep Node.root kept n) := by
  unfold Building.add First.keep
  cases hfind : b.graph.nodes.find? n.root with
  | none =>
      have hfresh : First.Fresh Node.root kept n := by
        rw [h.nodes, List.find?_eq_none] at hfind
        simpa [First.Fresh] using hfind
      rw [if_pos hfresh]
      refine ⟨fun root => ?_, ?_⟩
      · rw [Table.find?_insert, h.nodes, List.find?_append]
        by_cases hr : root = n.root
        · subst hr
          rw [if_pos rfl, ← h.nodes, hfind]
          simp
        · simp [hr, Ne.symm hr]
      · rw [h.resolver, Resolver.ofNodes_append]
  | some m =>
      have hstale : ¬First.Fresh Node.root kept n := by
        rw [h.nodes] at hfind
        have hroot : m.root = n.root := by simpa using List.find?_some hfind
        exact fun hfresh => hfresh m (List.mem_of_find?_eq_some hfind) hroot
      rw [if_neg hstale]
      exact ⟨h.nodes, h.resolver⟩

theorem Holds.foldl (h : Holds b kept) (l : List Node) :
    Holds (l.foldl Building.add b) (l.foldl (First.keep Node.root) kept) := by
  induction l generalizing b kept with
  | nil => exact h
  | cons n l ih => exact ih (h.add n)

end Building

/-! ## Finished graphs -/

@[simp]
theorem nodeOf_root (workspaceRoot : Path) (c : Config) (p : Package) :
    (nodeOf workspaceRoot c p).root = rootOf workspaceRoot p := by
  unfold nodeOf
  split <;> simp only [materializedNode, structuralNode]

@[simp]
theorem nodeOf_packageName (workspaceRoot : Path) (c : Config) (p : Package) :
    (nodeOf workspaceRoot c p).packageName = p.name := by
  unfold nodeOf
  split <;> simp only [materializedNode, structuralNode]

@[simp]
theorem nodeOf_name (workspaceRoot : Path) (c : Config) (p : Package) :
    (nodeOf workspaceRoot c p).name = c.graph.projectName p.name := by
  unfold nodeOf Naming.projectName
  split <;> simp only [materializedNode, structuralNode]

/-- The node of a package depends on nothing but its name and its place. -/
theorem nodeOf_congr {p q : Package} (hname : p.name = q.name)
    (hmanifest : p.manifestPath = q.manifestPath) (workspaceRoot : Path) (c : Config) :
    nodeOf workspaceRoot c p = nodeOf workspaceRoot c q := by
  have hroot : rootOf workspaceRoot p = rootOf workspaceRoot q := by
    simp only [rootOf, Package.manifestDir, hmanifest]
  simp only [nodeOf, materializedNode, structuralNode, hroot, hname]

/-- The nodes of the packages of a workspace, in their order. -/
def nodesOf (workspaceRoot : Path) (w : Workspace) (c : Config) : List Node :=
  w.members.map (nodeOf workspaceRoot c)

/-- The nodes that the graph of a workspace keeps: the first of each root. -/
def keptNodes (workspaceRoot : Path) (w : Workspace) (c : Config) : List Node :=
  First.firsts Node.root (nodesOf workspaceRoot w c)

variable (workspaceRoot : Path) (w : Workspace) (c : Config)

private theorem holds_buildNodes :
    Building.Holds ⟨(buildNodes workspaceRoot w c).1, (buildNodes workspaceRoot w c).2⟩
      (keptNodes workspaceRoot w c) :=
  let h := Building.holds_empty.foldl (nodesOf workspaceRoot w c)
  ⟨h.nodes, h.resolver⟩

/-- The node at a root is that of the first package there. -/
theorem find?_nodes_buildNodes (root : String) :
    (buildNodes workspaceRoot w c).1.nodes.find? root =
      (nodesOf workspaceRoot w c).find? fun n => n.root = root := by
  rw [← First.find?_firsts]
  exact (holds_buildNodes workspaceRoot w c).nodes root

theorem resolver_buildNodes :
    (buildNodes workspaceRoot w c).1.resolver = .ofNodes (keptNodes workspaceRoot w c) :=
  (holds_buildNodes workspaceRoot w c).resolver

variable {workspaceRoot w c} {n : Node}

/-- A node of a graph is found at its root. -/
theorem find?_root_of_mem_values (h : n ∈ (buildNodes workspaceRoot w c).1.nodes.values) :
    (buildNodes workspaceRoot w c).1.nodes.find? n.root = some n := by
  obtain ⟨root, hfind⟩ := (Table.mem_values_iff _ n).1 h
  have hroot : n.root = root := by
    rw [find?_nodes_buildNodes] at hfind
    simpa using List.find?_some hfind
  rw [hroot, hfind]

theorem mem_values_buildNodes :
    n ∈ (buildNodes workspaceRoot w c).1.nodes.values ↔ n ∈ keptNodes workspaceRoot w c := by
  rw [keptNodes, First.mem_firsts_iff, ← find?_nodes_buildNodes]
  exact ⟨find?_root_of_mem_values, fun h => (Table.mem_values_iff _ n).2 ⟨n.root, h⟩⟩

theorem nodup_root_nodesOf (hw : (w.members.map (rootOf workspaceRoot)).Nodup) :
    ((nodesOf workspaceRoot w c).map Node.root).Nodup := by
  simpa [nodesOf, Function.comp_def] using hw

/-- Where no two packages have one root, every package has its node. -/
theorem find?_rootOf_of_nodup (hw : (w.members.map (rootOf workspaceRoot)).Nodup) {p : Package}
    (hp : p ∈ w.members) :
    (buildNodes workspaceRoot w c).1.nodes.find? (rootOf workspaceRoot p) =
      some (nodeOf workspaceRoot c p) := by
  have hroots := nodup_root_nodesOf (c := c) hw
  have hmem : nodeOf workspaceRoot c p ∈ nodesOf workspaceRoot w c := List.mem_map_of_mem hp
  rw [find?_nodes_buildNodes, ← nodeOf_root workspaceRoot c p]
  exact (First.find?_iff_mem hroots).2 hmem

/-- Every node of a graph is that of a package. -/
theorem exists_package_of_mem_kept (h : n ∈ keptNodes workspaceRoot w c) :
    ∃ p ∈ w.members, nodeOf workspaceRoot c p = n :=
  List.mem_map.1 (First.mem_of_mem_firsts h)

/-- What a graph leads a name to is the project name of one of its nodes. -/
theorem exists_node_of_resolve? {name project : String}
    (h : (buildNodes workspaceRoot w c).1.resolver.resolve? name = some project) :
    ∃ n ∈ (buildNodes workspaceRoot w c).1.nodes.values,
      n.name = project ∧ (name = n.packageName ∨ name = n.name) := by
  rw [resolver_buildNodes] at h
  obtain ⟨n, hn, hname⟩ := Resolver.exists_of_resolve? h
  exact ⟨n, mem_values_buildNodes.2 hn, hname⟩

end CrateGraph
