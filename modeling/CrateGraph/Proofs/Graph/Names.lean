import CrateGraph.Proofs.Graph.Edges

/-!
# What the names of projects denote

The orchestrator addresses a project by its name, so a name that two nodes share denotes
neither. The checks of a configuration rule this out for the names that it gives to crates
and for those that two crates on the allow-list would share. They do not look at a crate on
the list that keeps its own name, and such a name can be the structural name of another
crate.

## Main results

* `namesDenote_iff` — the names of a graph denote its nodes exactly if no crate of the graph
  captures the project name of another.
* `not_namesDenote_clashing` — an accepted configuration and a workspace for which they do
  not.
-/

namespace CrateGraph

/-- Every project name of a graph denotes one node, and so does every end of an edge. -/
structure NamesDenote (workspaceRoot : Path) (w : Workspace) (g : ProjectGraph) : Prop where
  distinct : ∀ n ∈ g.nodes.values, ∀ m ∈ g.nodes.values, n.name = m.name → n = m
  found : ∀ n ∈ g.nodes.values, g.nodeByName? n.name = some n
  ends : ∀ e ∈ buildEdges workspaceRoot w g,
    (∃! n, n ∈ g.nodes.values ∧ n.name = e.source) ∧
      ∃! n, n ∈ g.nodes.values ∧ n.name = e.target

variable {workspaceRoot : Path} {w : Workspace} {c : Config} {n m : Node}

/-! ## Nodes and their crates -/

theorem name_of_mem_values (h : n ∈ (buildNodes workspaceRoot w c).1.nodes.values) :
    n.name = c.graph.projectName n.packageName := by
  obtain ⟨p, -, rfl⟩ := exists_package_of_mem_kept (mem_values_buildNodes.1 h)
  simp

/-- The name of a crate leads to its project, unless a project has that name. Where several
crates have it, their projects have one name as well, and so it does not matter which of them
came first. -/
theorem resolve?_packageName_of_unclaimed
    (hn : n ∈ (buildNodes workspaceRoot w c).1.nodes.values) (hne : n.packageName ≠ "")
    (hfree : ∀ m ∈ (buildNodes workspaceRoot w c).1.nodes.values, m.name ≠ n.packageName) :
    (buildNodes workspaceRoot w c).1.resolver.resolve? n.packageName = some n.name := by
  have hproject : ¬∃ m ∈ keptNodes workspaceRoot w c, m.name = n.packageName :=
    fun ⟨m, hm, hname⟩ => hfree m (mem_values_buildNodes.2 hm) hname
  have hsome : ((keptNodes workspaceRoot w c).find?
      fun m => m.packageName = n.packageName).isSome := by
    rw [List.find?_isSome]
    exact ⟨n, mem_values_buildNodes.1 hn, by simp⟩
  obtain ⟨m, hm⟩ := Option.isSome_iff_exists.1 hsome
  have hcrate : m.packageName = n.packageName := by simpa using List.find?_some hm
  have hmem := mem_values_buildNodes.2 (List.mem_of_find?_eq_some hm)
  have hname : m.name = n.name := by
    rw [name_of_mem_values hmem, name_of_mem_values hn, hcrate]
  rw [resolver_buildNodes, Resolver.resolve?_of_package hne hproject, hm, Option.map_some, hname]

/-- Where no two packages have one name, a crate has at most one node. -/
theorem eq_of_packageName_eq (hw : (w.members.map Package.name).Nodup)
    (hn : n ∈ (buildNodes workspaceRoot w c).1.nodes.values)
    (hm : m ∈ (buildNodes workspaceRoot w c).1.nodes.values)
    (h : n.packageName = m.packageName) : n = m := by
  obtain ⟨p, hp, rfl⟩ := exists_package_of_mem_kept (mem_values_buildNodes.1 hn)
  obtain ⟨q, hq, rfl⟩ := exists_package_of_mem_kept (mem_values_buildNodes.1 hm)
  rw [nodeOf_packageName, nodeOf_packageName] at h
  rw [List.inj_on_of_nodup_map hw hp hq h]

/-! ## Graphs whose names are distinct -/

/-- If no two nodes share a name, a name leads back to its node. -/
theorem nodeByName?_of_distinct {g : ProjectGraph}
    (hg : ∀ n ∈ g.nodes.values, ∀ m ∈ g.nodes.values, n.name = m.name → n = m)
    (hn : n ∈ g.nodes.values) : g.nodeByName? n.name = some n := by
  have hsome : (g.nodeByName? n.name).isSome := by
    rw [ProjectGraph.nodeByName?, List.find?_isSome]
    exact ⟨n, hn, by simp⟩
  obtain ⟨m, hm⟩ := Option.isSome_iff_exists.1 hsome
  have hname : m.name = n.name := by simpa using List.find?_some hm
  rw [hm, hg m (List.mem_of_find?_eq_some hm) n hn hname]

/-- If no two nodes share a name, whatever the resolver leads to is one node. -/
private theorem existsUnique_of_resolve?
    (hg : ∀ n ∈ (buildNodes workspaceRoot w c).1.nodes.values,
      ∀ m ∈ (buildNodes workspaceRoot w c).1.nodes.values, n.name = m.name → n = m)
    {name project : String}
    (h : (buildNodes workspaceRoot w c).1.resolver.resolve? name = some project) :
    ∃! n, n ∈ (buildNodes workspaceRoot w c).1.nodes.values ∧ n.name = project := by
  obtain ⟨n, hn, hname, -⟩ := exists_node_of_resolve? h
  exact ⟨n, ⟨hn, hname⟩, fun m ⟨hm, hm'⟩ => hg m hm n hn (hm'.trans hname.symm)⟩

theorem namesDenote_of_distinct
    (hg : ∀ n ∈ (buildNodes workspaceRoot w c).1.nodes.values,
      ∀ m ∈ (buildNodes workspaceRoot w c).1.nodes.values, n.name = m.name → n = m) :
    NamesDenote workspaceRoot w (buildNodes workspaceRoot w c).1 where
  distinct := hg
  found _ hn := nodeByName?_of_distinct hg hn
  ends e he := by
    obtain ⟨p, -, hs, -, d, -, ht, -⟩ :=
      (mem_declaredEdges_iff _ _ _ _).1 (mem_declaredEdges_of_mem_buildEdges he)
    exact ⟨existsUnique_of_resolve? hg hs, existsUnique_of_resolve? hg ht⟩

/-! ## When the names denote nodes -/

/-- With consistent names, the names of a graph denote its nodes unless one crate of the
graph captures the project name of another. -/
theorem namesDenote_iff_of_consistent (hn : Config.NamesConsistent c.graph)
    (hw : (w.members.map Package.name).Nodup) :
    NamesDenote workspaceRoot w (buildNodes workspaceRoot w c).1 ↔
      ∀ n ∈ (buildNodes workspaceRoot w c).1.nodes.values,
        ∀ m ∈ (buildNodes workspaceRoot w c).1.nodes.values,
          ¬c.graph.Captures n.packageName m.packageName := by
  constructor
  · intro h n hn m hm hcapture
    have hname : n.name = m.name := by
      rw [name_of_mem_values hn, name_of_mem_values hm]
      exact hcapture.projectName_eq
    have hnm : n = m := h.distinct n hn m hm hname
    exact hcapture.ne (congrArg Node.packageName hnm)
  · intro h
    refine namesDenote_of_distinct fun n hn' m hm' hname => ?_
    by_contra hne
    have hcrate : n.packageName ≠ m.packageName := fun he =>
      hne (eq_of_packageName_eq hw hn' hm' he)
    rw [name_of_mem_values hn', name_of_mem_values hm',
      Naming.projectName_eq_iff hn hcrate] at hname
    rcases hname with hcapture | hcapture
    · exact h n hn' m hm' hcapture
    · exact h m hm' n hn' hcapture

/-- Two packages side by side. -/
def pairWorkspace (a b : String) : Workspace :=
  ⟨[⟨a, .ofText "/ws/a/Cargo.toml", [], none⟩, ⟨b, .ofText "/ws/b/Cargo.toml", [], none⟩]⟩

/-- Both packages have a node. -/
private theorem exists_nodes_pairWorkspace (c : Config) (a b : String) :
    ∃ n ∈ (buildNodes (.ofText "/ws") (pairWorkspace a b) c).1.nodes.values,
      ∃ m ∈ (buildNodes (.ofText "/ws") (pairWorkspace a b) c).1.nodes.values,
        n.packageName = a ∧ m.packageName = b := by
  let p : Package := ⟨a, .ofText "/ws/a/Cargo.toml", [], none⟩
  let q : Package := ⟨b, .ofText "/ws/b/Cargo.toml", [], none⟩
  have hp : rootOf (.ofText "/ws") p = "a" := by
    show Path.relativeTo ((Path.parent? (.ofText "/ws/a/Cargo.toml")).getD (.ofText "."))
      (.ofText "/ws") = "a"
    decide +kernel
  have hq : rootOf (.ofText "/ws") q = "b" := by
    show Path.relativeTo ((Path.parent? (.ofText "/ws/b/Cargo.toml")).getD (.ofText "."))
      (.ofText "/ws") = "b"
    decide +kernel
  have hall : nodesOf (.ofText "/ws") (pairWorkspace a b) c =
      [nodeOf (.ofText "/ws") c p, nodeOf (.ofText "/ws") c q] :=
    rfl
  have hkept : keptNodes (.ofText "/ws") (pairWorkspace a b) c =
      [nodeOf (.ofText "/ws") c p, nodeOf (.ofText "/ws") c q] := by
    rw [keptNodes, hall]
    refine First.firsts_of_nodup ?_
    simp [hp, hq]
  refine ⟨nodeOf (.ofText "/ws") c p, ?_, nodeOf (.ofText "/ws") c q, ?_, nodeOf_packageName _ _ _,
    nodeOf_packageName _ _ _⟩
  · simp [mem_values_buildNodes, hkept]
  · simp [mem_values_buildNodes, hkept]

/-- For an accepted configuration the names of every graph denote its nodes exactly if no
crate can capture the project name of another. -/
theorem namesDenote_iff (hc : c.validate = .ok ()) :
    (∀ workspaceRoot w, (w.members.map Package.name).Nodup →
      (NamesDenote workspaceRoot w (buildNodes workspaceRoot w c).1 ↔
        ∀ n ∈ (buildNodes workspaceRoot w c).1.nodes.values,
          ∀ m ∈ (buildNodes workspaceRoot w c).1.nodes.values,
            ¬c.graph.Captures n.packageName m.packageName)) ∧
    ((∀ workspaceRoot w, (w.members.map Package.name).Nodup →
        NamesDenote workspaceRoot w (buildNodes workspaceRoot w c).1) ↔
      ∀ a b, ¬c.graph.Captures a b) := by
  have hn := (Config.names_of_validate hc).2
  refine ⟨fun root w hw => namesDenote_iff_of_consistent hn hw, fun h a b hcapture => ?_, ?_⟩
  · have hw : ((pairWorkspace a b).members.map Package.name).Nodup := by
      show [a, b].Nodup
      simp [hcapture.ne]
    obtain ⟨n, hn', m, hm', rfl, rfl⟩ := exists_nodes_pairWorkspace c a b
    exact (namesDenote_iff_of_consistent hn hw).1 (h _ _ hw) n hn' m hm' hcapture
  · exact fun h root w hw =>
      (namesDenote_iff_of_consistent hn hw).2 fun n _ m _ => h n.packageName m.packageName

/-- Two crates on the allow-list whose projects have each other's names. -/
def swappedConfig : Config :=
  { Config.default with
    graph := ⟨"rust:", ["a", "b"], (Table.empty.insert "a" "b").insert "b" "a"⟩ }

theorem namesDenote_swapped :
    swappedConfig.validate = .ok () ∧
      ∀ workspaceRoot w, (w.members.map Package.name).Nodup →
        NamesDenote workspaceRoot w (buildNodes workspaceRoot w swappedConfig).1 := by
  have hc : swappedConfig.validate = .ok () :=
    Config.validate_of_naming (by decide) (by decide +kernel) (by decide +kernel)
  refine ⟨hc, (namesDenote_iff hc).2.2 fun a b h => ?_⟩
  have hlisted : a = "a" ∨ a = "b" := by
    simpa [swappedConfig] using Naming.isExplicit_iff.1 h.explicit
  have hkept := h.kept
  rcases hlisted with rfl | rfl
  · revert hkept
    decide +kernel
  · revert hkept
    decide +kernel

/-- A structural prefix under which the crate `core` is called like the crate `lib-core`,
which is on the allow-list. -/
def clashingConfig : Config := { Config.default with graph := ⟨"lib-", ["lib-core"], .empty⟩ }

/-- Two packages of distinct names whose nodes share one, under an accepted
configuration. -/
theorem not_namesDenote_clashing :
    clashingConfig.validate = .ok () ∧
      ((pairWorkspace "lib-core" "core").members.map Package.name).Nodup ∧
      ¬NamesDenote (.ofText "/ws") (pairWorkspace "lib-core" "core")
        (buildNodes (.ofText "/ws") (pairWorkspace "lib-core" "core") clashingConfig).1 := by
  have hc : clashingConfig.validate = .ok () :=
    Config.validate_of_naming (by decide) (by decide +kernel) (by decide +kernel)
  refine ⟨hc, by decide +kernel, fun h => ?_⟩
  have hshared : ∃ n ∈ (buildNodes (.ofText "/ws") (pairWorkspace "lib-core" "core")
      clashingConfig).1.nodes.values, ∃ m ∈ (buildNodes (.ofText "/ws")
        (pairWorkspace "lib-core" "core") clashingConfig).1.nodes.values,
      n.name = m.name ∧ n ≠ m := by
    decide +kernel
  obtain ⟨n, hn, m, hm, hname, hne⟩ := hshared
  exact hne (h.distinct n hn m hm hname)

end CrateGraph
