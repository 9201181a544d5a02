import CrateGraph.Proofs.Synchronizer.Missing
import CrateGraph.Proofs.Synchronizer.Snapshot

/-!
# The report of missing crates and the graph

Whether a crate on the allow-list is there can be asked in two ways: of the packages, which the
report does, and of the graph. The graph has no node for a package that was passed over because
an earlier one has its root. Such a package is there all the same, it was warned of, and the
report does not list it. There is no other difference between the two.

## Main results

* `member?_eq_none_iff_unbuilt` — a crate is missing exactly if it has no node and none of its
  packages was passed over.
* `nodeByPackage?_eq_none_iff_of_listed` — a crate on the allow-list has no node at all, or one
  with targets.
* `reportsUnbuilt` — the reports of a synchronizer agree with its graphs in this way.
* `not_listsEveryUnbuilt_sharing` — they do not list every crate that has no node.
-/

namespace CrateGraph

open Metadata

/-- Whether a package with a name is passed over, because an earlier one has its root. -/
def Workspace.PassesOver (workspaceRoot : Path) (w : Workspace) (name : String) : Prop :=
  ∃ e ∈ First.repeats (rootOf workspaceRoot) w.members, e.2.name = name

instance (workspaceRoot : Path) (w : Workspace) (name : String) :
    Decidable (w.PassesOver workspaceRoot name) :=
  inferInstanceAs (Decidable (∃ e ∈ First.repeats (rootOf workspaceRoot) w.members,
    e.2.name = name))

/-- The crates on the allow-list that a graph has no node for, in the order of the list. -/
def ProjectGraph.unbuilt (c : Config) (g : ProjectGraph) : List String :=
  c.graph.explicit.filter fun name => g.nodeByPackage? name = none

/-- A report of missing crates agrees with the graph of a workspace. -/
structure ReportAgrees (c : Config) (workspaceRoot : Path) (w : Workspace)
    (report : List String) (g : ProjectGraph) : Prop where
  /-- What has no node is reported, unless it was passed over. -/
  listed : report =
    (g.unbuilt c).filter fun name => ¬w.PassesOver workspaceRoot name
  /-- What has no node has none with targets, and the other way around. -/
  unmaterialized : ∀ name ∈ c.graph.explicit, g.nodeByPackage? name = none ↔
    ¬∃ n ∈ g.nodes.values, n.packageName = name ∧ n.isMaterialized = true
  /-- Where no two packages have one root, everything that has no node is reported. -/
  everything : (w.members.map (rootOf workspaceRoot)).Nodup → report = g.unbuilt c

/-! ## Packages and nodes -/

variable {workspaceRoot : Path} {w : Workspace} {c : Config} {name : String}

theorem ProjectGraph.nodeByPackage?_eq_none_iff (g : ProjectGraph) (name : String) :
    g.nodeByPackage? name = none ↔ ∀ n ∈ g.nodes.values, n.packageName ≠ name := by
  rw [nodeByPackage?, List.find?_eq_none]
  simp only [decide_eq_true_eq]

/-- The node of a package that is not passed over is in the graph. -/
theorem nodeOf_mem_values_of_first {before after : List Package} {p : Package}
    (hmembers : w.members = before ++ p :: after)
    (hfirst : before.find? (fun q => rootOf workspaceRoot q = rootOf workspaceRoot p) = none) :
    nodeOf workspaceRoot c p ∈ (buildNodes workspaceRoot w c).1.nodes.values := by
  have hfound : w.members.find? (fun q => rootOf workspaceRoot q = rootOf workspaceRoot p) =
      some p := by
    rw [hmembers, List.find?_append, hfirst, Option.none_or]
    exact List.find?_cons_of_pos (decide_eq_true rfl)
  rw [Table.mem_values_iff]
  refine ⟨rootOf workspaceRoot p, ?_⟩
  rw [find?_nodes_eq_map, hfound, Option.map_some]

/-- No package inside the workspace has a name exactly if no node was made from a crate with that
name and no package with it was passed over. -/
theorem member?_eq_none_iff_unbuilt (workspaceRoot : Path) (w : Workspace) (c : Config)
    (name : String) :
    w.member? name = none ↔ (buildNodes workspaceRoot w c).1.nodeByPackage? name = none ∧
      ¬w.PassesOver workspaceRoot name := by
  rw [Workspace.member?_eq_none_iff, ProjectGraph.nodeByPackage?_eq_none_iff]
  constructor
  · intro hnone
    refine ⟨?_, ?_⟩
    · intro n hn hname
      obtain ⟨p, hp, rfl⟩ := exists_package_of_mem_kept (mem_values_buildNodes.1 hn)
      rw [nodeOf_packageName] at hname
      exact hnone (List.mem_map.2 ⟨p, hp, hname⟩)
    · rintro ⟨⟨q, p⟩, hrepeat, hname⟩
      obtain ⟨before, after, hmembers, -⟩ := First.mem_repeats_iff.1 hrepeat
      have hp : p ∈ w.members := by simp [hmembers]
      exact hnone (List.mem_map.2 ⟨p, hp, hname⟩)
  · rintro ⟨hunbuilt, hpassed⟩ hmem
    obtain ⟨p, hp, rfl⟩ := List.mem_map.1 hmem
    obtain ⟨before, after, hmembers⟩ := List.append_of_mem hp
    cases hfirst : before.find? fun q => rootOf workspaceRoot q = rootOf workspaceRoot p with
    | none =>
        have hnode := nodeOf_mem_values_of_first (c := c) hmembers hfirst
        exact hunbuilt _ hnode (nodeOf_packageName workspaceRoot c p)
    | some q =>
        have hrepeat : (q, p) ∈ First.repeats (rootOf workspaceRoot) w.members :=
          First.mem_repeats_iff.2 ⟨before, after, hmembers, hfirst⟩
        exact hpassed ⟨(q, p), hrepeat, rfl⟩

/-- A node that was made from a crate on the allow-list has targets. -/
theorem nodeByPackage?_eq_none_iff_of_listed (hname : name ∈ c.graph.explicit) :
    (buildNodes workspaceRoot w c).1.nodeByPackage? name = none ↔
      ¬∃ n ∈ (buildNodes workspaceRoot w c).1.nodes.values,
        n.packageName = name ∧ n.isMaterialized = true := by
  rw [ProjectGraph.nodeByPackage?_eq_none_iff]
  constructor
  · rintro hnone ⟨n, hn, hcrate, -⟩
    exact hnone n hn hcrate
  · intro hnone n hn hcrate
    obtain ⟨p, -, rfl⟩ := exists_package_of_mem_kept (mem_values_buildNodes.1 hn)
    have hlisted : p.name ∈ c.graph.explicit := by
      rw [← nodeOf_packageName workspaceRoot c p, hcrate]
      exact hname
    exact hnone ⟨_, hn, hcrate, (fits_nodeOf workspaceRoot c p).materialized.2 hlisted⟩

/-! ## Reports and graphs -/

theorem reportAgrees_buildNodes (c : Config) (workspaceRoot : Path) (w : Workspace) :
    ReportAgrees c workspaceRoot w
      (c.graph.explicit.filter fun name => (w.member? name).isNone)
      (buildNodes workspaceRoot w c).1 := by
  have hlisted : (c.graph.explicit.filter fun name => (w.member? name).isNone) =
      ((buildNodes workspaceRoot w c).1.unbuilt c).filter
        fun name => ¬w.PassesOver workspaceRoot name := by
    rw [ProjectGraph.unbuilt, List.filter_filter]
    refine List.filter_congr fun name _ => ?_
    rw [Bool.eq_iff_iff, Option.isNone_iff_eq_none, member?_eq_none_iff_unbuilt workspaceRoot w c]
    simp [and_comm]
  refine ⟨hlisted, fun name hname => nodeByPackage?_eq_none_iff_of_listed hname, ?_⟩
  intro hroots
  have hnone : ∀ name, ¬w.PassesOver workspaceRoot name := by
    rintro name ⟨e, he, -⟩
    rw [First.repeats_of_nodup hroots] at he
    cases he
  rw [hlisted]
  exact List.filter_eq_self.2 fun name _ => decide_eq_true (hnone name)

/-- The reports of a synchronizer agree with the graphs that it makes. -/
structure ReportsUnbuilt {σ : Type} (s : Synchronizer σ) : Prop where
  /-- Whatever was done before, and whatever the source says. -/
  atOnce (p : Progress σ) (root : Path) :
    ReportAgrees s.config (s.normalized ((s.metadata root).run p).2 root)
      ((s.metadata root).run p).1 ((s.missingExplicit root).run p).1 ((s.nodes root).run p).1
  /-- If the paths of files stay what they are, also where both are asked for at different times
  and the root is written otherwise. -/
  inRun (hfixed : s.source.KeepsPaths) (start : σ) (operations : List Operation) (i j : Nat)
    (root root' : Path) (hi : operations[i]? = some (.ask root .missingExplicit))
    (hj : operations[j]? = some (.ask root' .nodes))
    (hsame : (s.normalizedAt start root).Same (s.normalizedAt start root')) :
    ∃ report g, (s.outcomes operations (.start start))[i]? = some (.names report) ∧
      (s.outcomes operations (.start start))[j]? = some (.graph g) ∧
      ReportAgrees s.config (s.normalizedAt start root)
        (firstAnswer (s.replies start operations) (s.normalizedAt start root)) report g

/-- What the packages and the graph say of missing crates differs by the packages that were
passed over. -/
theorem reportsUnbuilt {σ : Type} (s : Synchronizer σ) : ReportsUnbuilt s where
  atOnce p root := by
    rw [Synchronizer.run_missingExplicit (Prod.eta _).symm,
      Synchronizer.run_nodes (Prod.eta _).symm]
    exact reportAgrees_buildNodes _ _ _
  inRun hfixed start operations i j root root' hi hj hsame := by
    have houtcomes := s.outcomes_start hfixed start operations
    refine ⟨_, _, ?_, ?_, reportAgrees_buildNodes _ _ _⟩
    · rw [houtcomes, List.getElem?_map, hi]
      rfl
    · rw [houtcomes, List.getElem?_map, hj]
      simp only [Option.map_some, Operation.outcome]
      rw [← firstAnswer_congr hsame, ← Query.outcome_congr hsame]
      rfl

/-! ## A package that is passed over -/

/-- Two packages with one manifest. -/
def sharingWorkspace : Workspace :=
  ⟨[⟨"first", .ofText "/ws/shared/Cargo.toml", [], none⟩,
    ⟨"second", .ofText "/ws/shared/Cargo.toml", [], none⟩]⟩

/-- A synchronizer for them, on a machine without files. The second package is on the allow-list,
between two mentions of a crate that is not there. -/
def sharing : Synchronizer Unit where
  config := { Config.default with graph := ⟨"rust:", ["absent", "second", "absent"], .empty⟩ }
  source := {
    name := "sharing"
    machine := fun _ => ⟨.empty, [], .ofText "/", []⟩
    fetch := fun _ _ => ((.ok sharingWorkspace, []), ()) }
  consistent := Config.validate_of_naming (by decide) (by decide +kernel) (by decide +kernel)

theorem unbuilt_sharing :
    ((sharing.nodes (.ofText "/ws")).run (.start ())).1.unbuilt sharing.config =
      ["absent", "second", "absent"] := by
  have hroot :
      sharing.normalized ((sharing.metadata (.ofText "/ws")).run (.start ())).2 (.ofText "/ws") =
        .ofText "/ws" := by
    cbv
  have hmetadata : ((sharing.metadata (.ofText "/ws")).run (.start ())).1 = sharingWorkspace := rfl
  rw [Synchronizer.run_nodes (Prod.eta _).symm, hroot, hmetadata]
  decide +kernel

theorem missingExplicit_sharing :
    ((sharing.missingExplicit (.ofText "/ws")).run (.start ())).1 = ["absent", "absent"] := by
  have hmetadata : ((sharing.metadata (.ofText "/ws")).run (.start ())).1 = sharingWorkspace := rfl
  rw [Synchronizer.run_missingExplicit (Prod.eta _).symm, hmetadata]
  decide +kernel

/-- The crate that was passed over is the only one without a node that is not reported. -/
theorem reportsUnbuilt_sharing :
    ReportsUnbuilt sharing ∧ sharing.source.KeepsPaths ∧
      sharingWorkspace.PassesOver (.ofText "/ws") "second" ∧
      ((sharing.missingExplicit (.ofText "/ws")).run (.start ())).1 = ["absent", "absent"] := by
  have hpassed : sharingWorkspace.PassesOver (.ofText "/ws") "second" := by decide +kernel
  exact ⟨reportsUnbuilt sharing, fun _ _ _ => rfl, hpassed, missingExplicit_sharing⟩

/-- A report does not list every crate without a node. -/
theorem not_listsEveryUnbuilt_sharing :
    ¬∀ (σ : Type) (s : Synchronizer σ) (p : Progress σ) (root : Path),
      ((s.missingExplicit root).run p).1 = ((s.nodes root).run p).1.unbuilt s.config := by
  intro h
  have hsharing := h Unit sharing (.start ()) (.ofText "/ws")
  rw [missingExplicit_sharing, unbuilt_sharing] at hsharing
  revert hsharing
  decide

end CrateGraph
