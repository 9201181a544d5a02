import CrateGraph.Proofs.Graph.Nodes

/-!
# Which packages a graph represents

A graph is made in one pass over the packages. What comes out can be said of each root by
itself: the first package with that root has the node, the allow-list decides which kind of
node it is, and every later package with that root is warned of, and of no other.

## Main results

* `warnings_buildNodes` — what is warned of while a graph is made.
* `fits_nodeOf` — what the node of a package is.
* `firstWins_buildNodes` — both together, with the roots that have a node.
-/

namespace CrateGraph

/-- What the node at a root is, if it was made from the given package. -/
structure Node.Fits (c : Config) (p : Package) (root : String) (n : Node) : Prop where
  root_eq : n.root = root
  package : n.packageName = p.name
  materialized : n.isMaterialized = true ↔ p.name ∈ c.graph.explicit
  listed : p.name ∈ c.graph.explicit →
    n.name = c.graph.materializedName p.name ∧
      n.targets.keys = [Target.build, Target.lint, Target.test] ∧
      ∃ t command, n.targets.find? Target.build = some t ∧ t.options = some command ∧
        command.cwd = root
  unlisted : p.name ∉ c.graph.explicit →
    n.implicit = true ∧ n.name = c.graph.structuralPrefix ++ p.name ∧ n.targets = .empty

/-- The warning that a package has the root of an earlier one. -/
def sharedRootWarning (workspaceRoot : Path) (kept passedOver : Package) : Event :=
  .sharedRoot kept.name passedOver.name (rootOf workspaceRoot passedOver)

/-- A graph in which the first package of each root has the node, and what was told when it
was made. -/
structure FirstWins (workspaceRoot : Path) (w : Workspace) (c : Config) (g : ProjectGraph)
    (events : List Event) : Prop where
  keys : ∀ root, root ∈ g.nodes.keys ↔
    ∃ p ∈ w.members, Path.relativeTo p.manifestDir workspaceRoot = root
  node : ∀ root n, g.nodes.find? root = some n →
    ∃ p, w.members.find? (fun p => Path.relativeTo p.manifestDir workspaceRoot = root) = some p ∧
      n.Fits c p root
  warnings : events.filter (·.level = .warn) =
    (First.repeats (rootOf workspaceRoot) w.members).map fun e =>
      sharedRootWarning workspaceRoot e.1 e.2

variable (workspaceRoot : Path) (w : Workspace) (c : Config)

/-! ## The node of a package -/

theorem keys_crateTargets (root : String) :
    (crateTargets c root).keys = [Target.build, Target.lint, Target.test] := by
  have htest : ¬"test" < "build" := by decide
  have hlint : ¬"lint" < "build" := by decide
  have horder : "lint" < "test" := by decide
  simp [crateTargets, Table.keys, Table.insert, Table.empty, insertEntry, Target.build,
    Target.test, Target.lint, htest, hlint, horder]

/-- A crate is built in its own root, from its own files and the native sources. -/
theorem find?_build_crateTargets (root : String) :
    (crateTargets c root).find? Target.build =
      some ((Target.ofExecutor c.targets.buildExecutor).withCommand c.targets.buildCommand root
        |>.withInputs ((Glob.projectRoot ++ "/**/*") :: c.sources.nativeSources)
        |>.withOutputs c.targets.outputs) := by
  have htest : Target.build ≠ Target.test := by decide
  have hlint : Target.build ≠ Target.lint := by decide
  rw [crateTargets, Table.find?_insert_of_ne _ hlint, Table.find?_insert_of_ne _ htest,
    Table.find?_insert_self]

theorem fits_materializedNode {p : Package} (h : p.name ∈ c.graph.explicit) (root : String) :
    (materializedNode c p root).Fits c p root where
  root_eq := rfl
  package := rfl
  materialized := ⟨fun _ => h, fun _ => rfl⟩
  listed _ := ⟨rfl, keys_crateTargets c root, _, ⟨c.targets.buildCommand, root⟩,
    find?_build_crateTargets c root, rfl, rfl⟩
  unlisted hn := absurd h hn

theorem fits_structuralNode {p : Package} (h : p.name ∉ c.graph.explicit) (root : String) :
    (structuralNode c p root).Fits c p root where
  root_eq := rfl
  package := rfl
  materialized := ⟨fun hm => by simp [Node.isMaterialized, structuralNode] at hm,
    fun he => absurd he h⟩
  listed he := absurd he h
  unlisted _ := ⟨rfl, rfl, rfl⟩

theorem fits_nodeOf (p : Package) :
    (nodeOf workspaceRoot c p).Fits c p (rootOf workspaceRoot p) := by
  have hlisted : c.graph.isExplicit p.name = true ↔ p.name ∈ c.graph.explicit :=
    Naming.isExplicit_iff
  unfold nodeOf
  split
  · rename_i h
    exact fits_materializedNode c (hlisted.1 h) _
  · rename_i h
    exact fits_structuralNode c (fun he => h (hlisted.2 he)) _

/-! ## What is warned of -/

/-- A resolver tells nothing that needs attention. -/
theorem level_of_mem_kept {r : Resolver} {n : Node} {e : Event} (h : e ∈ r.kept n) :
    e.level = .debug := by
  obtain ⟨name, -, hname⟩ := List.mem_filterMap.1 h
  cases hfind : r.aliases.find? name.1 with
  | none => simp [hfind] at hname
  | some holder =>
      simp only [hfind] at hname
      split at hname
      · cases hname
        rfl
      · cases hname

/-- Adding a node warns of it exactly if there is one with its root. -/
theorem warnings_add (b : Building) (n : Node) :
    (b.add n).events.filter (·.level = .warn) =
      b.events.filter (·.level = .warn) ++ ((b.graph.nodes.find? n.root).map fun kept =>
        Event.sharedRoot kept.packageName n.packageName n.root).toList := by
  unfold Building.add
  cases b.graph.nodes.find? n.root with
  | none =>
      have hquiet : (b.graph.resolver.kept n).filter (·.level = .warn) = [] := by
        rw [List.filter_eq_nil_iff]
        intro e he
        simp [level_of_mem_kept he]
      have hadded : (Event.nodeAdded n.isMaterialized n.name n.root).level = .debug := rfl
      simp [hadded, hquiet]
  | some kept => simp [Event.level]

theorem warnings_foldl_add (l : List Package) :
    ((l.map (nodeOf workspaceRoot c)).foldl Building.add ⟨.empty, []⟩).events.filter
        (·.level = .warn) =
      (First.repeats (rootOf workspaceRoot) l).map fun e =>
        sharedRootWarning workspaceRoot e.1 e.2 := by
  induction l using List.reverseRecOn with
  | nil => rfl
  | append_singleton l p ih =>
      -- What is warned of at `p` depends on the node that was kept before, which is that of
      -- the first package with the root of `p`.
      have hkept := (Building.holds_empty.foldl (l.map (nodeOf workspaceRoot c))).nodes
        (rootOf workspaceRoot p)
      have hfirst : (First.firsts Node.root (l.map (nodeOf workspaceRoot c))).find?
          (fun n => n.root = rootOf workspaceRoot p) =
            (l.find? fun q => rootOf workspaceRoot q = rootOf workspaceRoot p).map
              (nodeOf workspaceRoot c) := by
        rw [First.find?_firsts, List.find?_map]
        simp only [Function.comp_def, nodeOf_root]
      rw [List.map_append, List.foldl_append, List.map_singleton, List.foldl_cons,
        List.foldl_nil, warnings_add, ih, First.repeats_append_singleton, List.map_append,
        nodeOf_root, hkept]
      have hrun : (l.map (nodeOf workspaceRoot c)).foldl (First.keep Node.root) [] =
        First.firsts Node.root (l.map (nodeOf workspaceRoot c)) := rfl
      rw [hrun, hfirst]
      cases l.find? fun q => rootOf workspaceRoot q = rootOf workspaceRoot p <;>
        simp [sharedRootWarning]

/-- Each package with the root of an earlier one is warned of, and nothing else is. -/
theorem warnings_buildNodes :
    (buildNodes workspaceRoot w c).2.filter (·.level = .warn) =
      (First.repeats (rootOf workspaceRoot) w.members).map fun e =>
        sharedRootWarning workspaceRoot e.1 e.2 := by
  have hmissing : ∀ g, (missingNodes c g).filter (·.level = .warn) = [] := by
    intro g
    rw [List.filter_eq_nil_iff]
    intro e he
    obtain ⟨package, -, rfl⟩ := List.mem_map.1 he
    simp [Event.level]
  rw [buildNodes, List.filter_append, hmissing, List.append_nil, warnings_foldl_add]

/-! ## First wins -/

/-- The node at a root is that of the first package with that root. -/
theorem find?_nodes_eq_map (root : String) :
    (buildNodes workspaceRoot w c).1.nodes.find? root =
      (w.members.find? fun p => rootOf workspaceRoot p = root).map (nodeOf workspaceRoot c) := by
  rw [find?_nodes_buildNodes, nodesOf, List.find?_map]
  simp only [Function.comp_def, nodeOf_root]

/-- The roots that have a node are those of the packages. -/
theorem mem_keys_buildNodes_iff (root : String) :
    root ∈ (buildNodes workspaceRoot w c).1.nodes.keys ↔
      ∃ p ∈ w.members, rootOf workspaceRoot p = root := by
  rw [Table.mem_keys_iff]
  simp only [find?_nodes_eq_map, Option.map_eq_some_iff]
  constructor
  · rintro ⟨_, p, hp, rfl⟩
    exact ⟨p, List.mem_of_find?_eq_some hp, by simpa using List.find?_some hp⟩
  · rintro ⟨p, hp, hroot⟩
    have hsome : (w.members.find? fun p => rootOf workspaceRoot p = root).isSome := by
      rw [List.find?_isSome]
      exact ⟨p, hp, decide_eq_true hroot⟩
    obtain ⟨q, hq⟩ := Option.isSome_iff_exists.1 hsome
    exact ⟨_, q, hq, rfl⟩

theorem firstWins_buildNodes :
    FirstWins workspaceRoot w c (buildNodes workspaceRoot w c).1
      (buildNodes workspaceRoot w c).2 where
  keys root := mem_keys_buildNodes_iff workspaceRoot w c root
  node root n hn := by
    rw [find?_nodes_eq_map, Option.map_eq_some_iff] at hn
    obtain ⟨p, hp, rfl⟩ := hn
    have hroot : rootOf workspaceRoot p = root := by simpa using List.find?_some hp
    exact ⟨p, hp, hroot ▸ fits_nodeOf workspaceRoot c p⟩
  warnings := warnings_buildNodes workspaceRoot w c

end CrateGraph
