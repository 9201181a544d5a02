import CrateGraph.Proofs.Graph.Names

/-!
# Edges and declared dependencies

Manifests speak of crates and edges speak of projects. Both ends of an edge are looked up by
the name of a crate, and a project that has this name comes first. A crate whose name is
that of another project is *shadowed* by it: dependencies on the crate are drawn to the
other project, and its own dependencies are drawn from there.

## Main results

* `resolve?_packageName` — where the name of a crate leads, shadowed or not.
* `edgesFollowNames_buildNodes` — the edges of a workspace follow the names, and where no
  crate is shadowed they are the dependencies of the packages.
* `not_mirrorsDependencies_shadowed` — where one is, they are not.
-/

namespace CrateGraph

/-- What the metadata tool promises of the packages of a workspace. -/
structure Workspace.Distinct (workspaceRoot : Path) (w : Workspace) : Prop where
  named : ∀ p ∈ w.members, p.name ≠ ""
  names : (w.members.map Package.name).Nodup
  roots : (w.members.map (rootOf workspaceRoot)).Nodup

/-- A node whose crate has the name of another node's project. -/
def ProjectGraph.Shadowed (g : ProjectGraph) (n : Node) : Prop :=
  ∃ m ∈ g.nodes.values, m ≠ n ∧ m.name = n.packageName

instance (g : ProjectGraph) (n : Node) : Decidable (g.Shadowed n) :=
  inferInstanceAs (Decidable (∃ m ∈ g.nodes.values, m ≠ n ∧ m.name = n.packageName))

/-- The project that the crate of a node is taken for. -/
def ProjectGraph.takenFor (g : ProjectGraph) (n : Node) : String :=
  if g.Shadowed n then n.packageName else n.name

section Statements

variable (workspaceRoot : Path) (w : Workspace) (g : ProjectGraph)

/-- An edge between the nodes of two packages, which are called by their names or else. -/
def EdgeDrawn (called : Node → String) (p q : Package) : Prop :=
  ∃ n m, g.nodes.find? (rootOf workspaceRoot p) = some n ∧
    g.nodes.find? (rootOf workspaceRoot q) = some m ∧
    ∃ e ∈ buildEdges workspaceRoot w g, e.source = called n ∧ e.target = called m

/-- An edge that leads from the node of a package and that a dependency of it declares. -/
def EdgeDeclared (called : Node → String) (e : Edge) : Prop :=
  ∃ p ∈ w.members, ∃ n, g.nodes.find? (rootOf workspaceRoot p) = some n ∧
    e.source = called n ∧ e.sourceFile = Path.relativeTo p.manifestPath workspaceRoot ∧
    ∃ m ∈ g.nodes.values, m.name = e.target ∧
      ∃ d ∈ p.dependencies, d = m.packageName ∨ d = m.name

/-- The edges of a workspace are the dependencies between its packages. -/
structure MirrorsDependencies : Prop where
  drawn : ∀ p ∈ w.members, ∀ q ∈ w.members, p ≠ q → q.name ∈ p.dependencies →
    EdgeDrawn workspaceRoot w g Node.name p q
  declared : ∀ e ∈ buildEdges workspaceRoot w g, EdgeDeclared workspaceRoot w g Node.name e

/-- The edges of a workspace are the dependencies between the projects that its packages are
taken for. -/
structure EdgesFollowNames : Prop where
  drawn : ∀ p ∈ w.members, ∀ q ∈ w.members, q.name ∈ p.dependencies →
    ∀ n m, g.nodes.find? (rootOf workspaceRoot p) = some n →
      g.nodes.find? (rootOf workspaceRoot q) = some m → g.takenFor n ≠ g.takenFor m →
        EdgeDrawn workspaceRoot w g g.takenFor p q
  declared : ∀ e ∈ buildEdges workspaceRoot w g, EdgeDeclared workspaceRoot w g g.takenFor e
  mirrored : (∀ n ∈ g.nodes.values, ¬g.Shadowed n) → MirrorsDependencies workspaceRoot w g

end Statements

variable {workspaceRoot : Path} {w : Workspace} {c : Config}

/-! ## The node of a package -/

theorem find?_rootOf (hw : w.Distinct workspaceRoot) {p : Package} (hp : p ∈ w.members) :
    (buildNodes workspaceRoot w c).1.nodes.find? (rootOf workspaceRoot p) =
      some (nodeOf workspaceRoot c p) :=
  find?_rootOf_of_nodup hw.roots hp

theorem nodeOf_mem_values (hw : w.Distinct workspaceRoot) {p : Package} (hp : p ∈ w.members) :
    nodeOf workspaceRoot c p ∈ (buildNodes workspaceRoot w c).1.nodes.values :=
  (Table.mem_values_iff _ _).2 ⟨_, find?_rootOf hw hp⟩

/-! ## Where the name of a crate leads -/

/-- The name of a crate leads to the project that the crate is taken for. -/
theorem resolve?_packageName {n : Node}
    (hn : n ∈ (buildNodes workspaceRoot w c).1.nodes.values) (hne : n.packageName ≠ "") :
    (buildNodes workspaceRoot w c).1.resolver.resolve? n.packageName =
      some ((buildNodes workspaceRoot w c).1.takenFor n) := by
  by_cases hname : ∃ m ∈ keptNodes workspaceRoot w c, m.name = n.packageName
  · rw [resolver_buildNodes, Resolver.resolve?_of_project hname]
    unfold ProjectGraph.takenFor
    split
    · rfl
    · rename_i hshadow
      obtain ⟨m, hm, hmn⟩ := hname
      -- The project with the name of the crate can only be that of the crate.
      have hself : m = n := by
        by_contra hne'
        exact hshadow ⟨m, mem_values_buildNodes.2 hm, hne', hmn⟩
      rw [← hmn, hself]
  · have hfree : ∀ m ∈ (buildNodes workspaceRoot w c).1.nodes.values, m.name ≠ n.packageName :=
      fun m hm hmn => hname ⟨m, mem_values_buildNodes.1 hm, hmn⟩
    have hshadow : ¬(buildNodes workspaceRoot w c).1.Shadowed n := fun ⟨m, hm, _, hmn⟩ =>
      hfree m hm hmn
    rw [resolve?_packageName_of_unclaimed hn hne hfree, ProjectGraph.takenFor, if_neg hshadow]

/-- The same for a package and its node. -/
theorem resolve?_name (hw : w.Distinct workspaceRoot) {p : Package} (hp : p ∈ w.members) :
    (buildNodes workspaceRoot w c).1.resolver.resolve? p.name =
      some ((buildNodes workspaceRoot w c).1.takenFor (nodeOf workspaceRoot c p)) := by
  have h := resolve?_packageName (nodeOf_mem_values (c := c) hw hp)
    (by simpa using hw.named p hp)
  simpa using h

/-! ## Edges -/

theorem edgeDrawn_takenFor (hw : w.Distinct workspaceRoot) {p q : Package} (hp : p ∈ w.members)
    (hq : q ∈ w.members) (hd : q.name ∈ p.dependencies)
    (hne : (buildNodes workspaceRoot w c).1.takenFor (nodeOf workspaceRoot c p) ≠
      (buildNodes workspaceRoot w c).1.takenFor (nodeOf workspaceRoot c q)) :
    EdgeDrawn workspaceRoot w (buildNodes workspaceRoot w c).1
      (buildNodes workspaceRoot w c).1.takenFor p q := by
  refine ⟨_, _, find?_rootOf hw hp, find?_rootOf hw hq, ?_⟩
  rw [exists_mem_buildEdges_iff]
  exact ⟨hne.symm, p, hp, resolve?_name hw hp, q.name, hd, resolve?_name hw hq⟩

theorem edgeDeclared_takenFor (hw : w.Distinct workspaceRoot) {e : Edge}
    (he : e ∈ buildEdges workspaceRoot w (buildNodes workspaceRoot w c).1) :
    EdgeDeclared workspaceRoot w (buildNodes workspaceRoot w c).1
      (buildNodes workspaceRoot w c).1.takenFor e := by
  obtain ⟨p, hp, hs, hfile, d, hd, ht, -⟩ :=
    (mem_declaredEdges_iff _ _ _ _).1 (mem_declaredEdges_of_mem_buildEdges he)
  rw [resolve?_name hw hp] at hs
  obtain ⟨m, hm, hname, halias⟩ := exists_node_of_resolve? ht
  exact ⟨p, hp, _, find?_rootOf hw hp, (Option.some.inj hs).symm, hfile, m, hm, hname, d, hd,
    halias⟩

/-- Where no crate is shadowed, no crate captures a project name either. -/
theorem namesDenote_of_unshadowed (hn : Config.NamesConsistent c.graph)
    (hw : (w.members.map Package.name).Nodup)
    (h : ∀ n ∈ (buildNodes workspaceRoot w c).1.nodes.values,
      ¬(buildNodes workspaceRoot w c).1.Shadowed n) :
    NamesDenote workspaceRoot w (buildNodes workspaceRoot w c).1 := by
  rw [namesDenote_iff_of_consistent hn hw]
  intro n hn' m hm' hcapture
  refine h n hn' ⟨m, hm', fun hmn => hcapture.ne (congrArg Node.packageName hmn).symm, ?_⟩
  have hname : n.packageName = c.graph.projectName n.packageName := by
    rw [Naming.projectName, if_pos hcapture.explicit, Naming.materializedName, hcapture.kept]
    rfl
  rw [name_of_mem_values hm', hname, hcapture.projectName_eq]

theorem mirrorsDependencies_of_unshadowed (hn : Config.NamesConsistent c.graph)
    (hw : w.Distinct workspaceRoot)
    (h : ∀ n ∈ (buildNodes workspaceRoot w c).1.nodes.values,
      ¬(buildNodes workspaceRoot w c).1.Shadowed n) :
    MirrorsDependencies workspaceRoot w (buildNodes workspaceRoot w c).1 := by
  have htaken : ∀ p ∈ w.members, (buildNodes workspaceRoot w c).1.takenFor
      (nodeOf workspaceRoot c p) = (nodeOf workspaceRoot c p).name := fun p hp =>
    if_neg (h _ (nodeOf_mem_values hw hp))
  constructor
  · intro p hp q hq hpq hd
    have hname : (nodeOf workspaceRoot c p).name ≠ (nodeOf workspaceRoot c q).name := by
      intro heq
      have hnode := (namesDenote_of_unshadowed hn hw.names h).distinct _
        (nodeOf_mem_values hw hp) _ (nodeOf_mem_values hw hq) heq
      have hcrate : p.name = q.name := by simpa using congrArg Node.packageName hnode
      exact hpq (List.inj_on_of_nodup_map hw.names hp hq hcrate)
    obtain ⟨n, m, hfn, hfm, e, he, hs, ht⟩ :=
      edgeDrawn_takenFor (c := c) hw hp hq hd (by rwa [htaken p hp, htaken q hq])
    rw [find?_rootOf hw hp] at hfn
    rw [find?_rootOf hw hq] at hfm
    cases hfn
    cases hfm
    exact ⟨_, _, find?_rootOf hw hp, find?_rootOf hw hq, e, he, hs.trans (htaken p hp),
      ht.trans (htaken q hq)⟩
  · intro e he
    obtain ⟨p, hp, n, hfn, hs, hrest⟩ := edgeDeclared_takenFor hw he
    rw [find?_rootOf hw hp] at hfn
    cases hfn
    exact ⟨p, hp, _, find?_rootOf hw hp, hs.trans (htaken p hp), hrest⟩

/-- The edges of a workspace lead between the projects that its packages are taken for, and
each is declared. They are the dependencies of the packages if no crate is shadowed. -/
theorem edgesFollowNames_buildNodes (hc : c.validate = .ok ())
    (hw : w.Distinct workspaceRoot) :
    EdgesFollowNames workspaceRoot w (buildNodes workspaceRoot w c).1 where
  drawn p hp q hq hd n m hn hm hne := by
    rw [find?_rootOf hw hp] at hn
    rw [find?_rootOf hw hq] at hm
    cases hn
    cases hm
    exact edgeDrawn_takenFor hw hp hq hd hne
  declared _ he := edgeDeclared_takenFor hw he
  mirrored h := mirrorsDependencies_of_unshadowed (Config.names_of_validate hc).2 hw h

/-! ## A shadowed crate -/

/-- The crate `legacy_v2` is published as `legacy`. -/
def shadowingConfig : Config :=
  { Config.default with
    graph := ⟨"rust:", ["legacy_v2"], Table.empty.insert "legacy_v2" "legacy"⟩ }

/-- The crate that `legacy_v2` shadows. -/
def shadowedPackage : Package := ⟨"legacy", .ofText "/ws/legacy/Cargo.toml", ["util"], none⟩

/-- A crate that the shadowed one depends on. -/
def utilPackage : Package := ⟨"util", .ofText "/ws/util/Cargo.toml", [], none⟩

/-- A workspace with a shadowed crate. -/
def shadowedWorkspace : Workspace :=
  ⟨[shadowedPackage, utilPackage, ⟨"legacy_v2", .ofText "/ws/legacy_v2/Cargo.toml", [], none⟩]⟩

private theorem shadowingConfig_validate : shadowingConfig.validate = .ok () :=
  Config.validate_of_naming (by decide) (by decide +kernel) (by decide +kernel)

private theorem shadowedWorkspace_distinct : shadowedWorkspace.Distinct (.ofText "/ws") :=
  ⟨by decide +kernel, by decide +kernel, by decide +kernel⟩

theorem edgesFollowNames_shadowed :
    shadowingConfig.validate = .ok () ∧ shadowedWorkspace.Distinct (.ofText "/ws") ∧
      EdgesFollowNames (.ofText "/ws") shadowedWorkspace
        (buildNodes (.ofText "/ws") shadowedWorkspace shadowingConfig).1 :=
  ⟨shadowingConfig_validate, shadowedWorkspace_distinct,
    edgesFollowNames_buildNodes shadowingConfig_validate shadowedWorkspace_distinct⟩

/-- The dependency of the shadowed crate is not drawn from its node. -/
theorem not_mirrorsDependencies_shadowed :
    shadowingConfig.validate = .ok () ∧ shadowedWorkspace.Distinct (.ofText "/ws") ∧
      ¬MirrorsDependencies (.ofText "/ws") shadowedWorkspace
        (buildNodes (.ofText "/ws") shadowedWorkspace shadowingConfig).1 := by
  refine ⟨shadowingConfig_validate, shadowedWorkspace_distinct, fun h => ?_⟩
  obtain ⟨n, m, hn, -, e, he, hs, -⟩ := h.drawn shadowedPackage (by decide) utilPackage
    (by decide) (by decide) (by decide)
  have hname : ((buildNodes (.ofText "/ws") shadowedWorkspace shadowingConfig).1.nodes.find?
      (rootOf (.ofText "/ws") shadowedPackage)).map Node.name = some "rust:legacy" := by
    decide +kernel
  have hnone : ∀ e ∈ buildEdges (.ofText "/ws") shadowedWorkspace
      (buildNodes (.ofText "/ws") shadowedWorkspace shadowingConfig).1,
        e.source ≠ "rust:legacy" := by
    decide +kernel
  rw [hn] at hname
  exact hnone e he (hs.trans (Option.some.inj hname))

end CrateGraph
