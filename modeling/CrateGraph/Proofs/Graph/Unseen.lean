import CrateGraph.Proofs.Graph.Dependencies
import CrateGraph.Proofs.Synchronizer.Missing

/-!
# What a graph does not see

The metadata tool reports packages that are fetched from elsewhere next to those of the
workspace, and among the dependencies of a package there are many on packages that are no
project. Neither leaves a trace: packages from outside are passed over wherever packages are
read, and a name that no node has leads nowhere. So two workspaces that differ in nothing else
have the same graph, of which the same is told, and the same edges in the same order.

## Main results

* `knows_buildNodes_iff` — the names that lead somewhere are those of the nodes.
* `edgesFor_filter` — a package asks for the same edges without its unknown dependencies.
* `sameFromInside_of_alike` — what is made of two workspaces that are alike inside.
-/

namespace CrateGraph

/-- Whether a name is one of the names of some node. -/
def ProjectGraph.Knows (g : ProjectGraph) (name : String) : Prop :=
  ∃ n ∈ g.nodes.values, name ∈ (Resolver.names n).map Prod.fst

instance (g : ProjectGraph) (name : String) : Decidable (g.Knows name) :=
  inferInstanceAs (Decidable (∃ n ∈ g.nodes.values, name ∈ (Resolver.names n).map Prod.fst))

/-- Packages that differ at most in dependencies on names that a graph does not know. -/
structure Package.AlikeIn (g : ProjectGraph) (p q : Package) : Prop where
  name : p.name = q.name
  manifestPath : p.manifestPath = q.manifestPath
  /-- The known dependencies are the same and in the same order; unknown ones may stand
  anywhere between them. -/
  dependencies : p.dependencies.filter (g.Knows ·) = q.dependencies.filter (g.Knows ·)

/-- Workspaces whose packages inside the workspace are alike one by one. Nothing is said of
packages from outside, wherever they are listed. -/
def Workspace.AlikeInside (g : ProjectGraph) (w w' : Workspace) : Prop :=
  List.Forall₂ (Package.AlikeIn g) w.members w'.members

/-- The same is made of two workspaces at a root, and the same is told about it. -/
structure SameFromInside (workspaceRoot : Path) (w w' : Workspace) (c : Config) : Prop where
  graph : (buildNodes workspaceRoot w c).1 = (buildNodes workspaceRoot w' c).1
  told : (buildNodes workspaceRoot w c).2 = (buildNodes workspaceRoot w' c).2
  edges : buildEdges workspaceRoot w (buildNodes workspaceRoot w c).1 =
    buildEdges workspaceRoot w' (buildNodes workspaceRoot w' c).1
  missing : ReportedAlike c w w'

variable {workspaceRoot : Path} {w w' : Workspace} {c : Config} {g : ProjectGraph}

/-- Functions that agree on related items give the same list. -/
private theorem map_eq_of_forall₂ {α β : Type} {R : α → α → Prop} {f : α → β} {l l' : List α}
    (h : List.Forall₂ R l l') (hf : ∀ a b, R a b → f a = f b) : l.map f = l'.map f := by
  induction h with
  | nil => rfl
  | cons hab _ ih => rw [List.map_cons, List.map_cons, hf _ _ hab, ih]

/-! ## Nodes -/

/-- The names that lead somewhere in a graph are those of its nodes. -/
theorem knows_buildNodes_iff (name : String) :
    (buildNodes workspaceRoot w c).1.Knows name ↔
      (buildNodes workspaceRoot w c).1.resolver.resolve? name ≠ none := by
  rw [resolver_buildNodes, Ne, Resolver.resolve?_ofNodes_eq_none_iff]
  simp only [ProjectGraph.Knows, mem_values_buildNodes]
  push Not
  rfl

theorem buildNodes_of_alike (h : w.AlikeInside g w') :
    buildNodes workspaceRoot w c = buildNodes workspaceRoot w' c := by
  have hnodes : w.members.map (nodeOf workspaceRoot c) = w'.members.map (nodeOf workspaceRoot c) :=
    map_eq_of_forall₂ h fun p q hpq => nodeOf_congr hpq.name hpq.manifestPath workspaceRoot c
  simp only [buildNodes, hnodes]

/-! ## Edges -/

theorem declaredEdge?_eq_none {r : Resolver} {dependency : String}
    (h : r.resolve? dependency = none) (source sourceFile : String) :
    declaredEdge? r source sourceFile dependency = none := by
  rw [declaredEdge?, h]

/-- A package asks for the same edges without the dependencies that lead nowhere. -/
theorem edgesFor_filter {r : Resolver} {known : String → Bool}
    (hknown : ∀ name, known name = false → r.resolve? name = none) (p : Package)
    (dependencies : List String) :
    edgesFor r workspaceRoot p (dependencies.filter known) =
      edgesFor r workspaceRoot p dependencies := by
  unfold edgesFor
  cases r.resolve? p.name with
  | none => rfl
  | some source =>
      simp only [List.filterMap_filter]
      refine List.filterMap_congr fun d _ => ?_
      cases hd : known d with
      | true => simp
      | false => simp [declaredEdge?_eq_none (hknown d hd)]

/-- Packages that are alike ask for the same edges. -/
theorem edgesFor_of_alike {r : Resolver} (hr : ∀ name, ¬g.Knows name → r.resolve? name = none)
    {p q : Package} (h : p.AlikeIn g q) :
    edgesFor r workspaceRoot p p.dependencies = edgesFor r workspaceRoot q q.dependencies := by
  have hknown : ∀ name, decide (g.Knows name) = false → r.resolve? name = none :=
    fun name hname => hr name (of_decide_eq_false hname)
  calc edgesFor r workspaceRoot p p.dependencies
      = edgesFor r workspaceRoot p (p.dependencies.filter (g.Knows ·)) :=
        (edgesFor_filter hknown p _).symm
    _ = edgesFor r workspaceRoot p (q.dependencies.filter (g.Knows ·)) := by
        rw [h.dependencies]
    _ = edgesFor r workspaceRoot p q.dependencies := edgesFor_filter hknown p _
    _ = edgesFor r workspaceRoot q q.dependencies := by
        simp only [edgesFor, h.name, h.manifestPath]

theorem buildEdges_of_alike (hg : ∀ name, ¬g.Knows name → g.resolver.resolve? name = none)
    (h : w.AlikeInside g w') :
    buildEdges workspaceRoot w g = buildEdges workspaceRoot w' g := by
  have hasked : (w.members.map fun p => edgesFor g.resolver workspaceRoot p p.dependencies) =
      w'.members.map fun p => edgesFor g.resolver workspaceRoot p p.dependencies :=
    map_eq_of_forall₂ h fun p q hpq => edgesFor_of_alike hg hpq
  rw [buildEdges_eq, buildEdges_eq, declaredEdges, declaredEdges, List.flatMap, List.flatMap,
    hasked]

/-! ## From inside -/

/-- Neither packages from outside nor dependencies on what is no project leave a trace. -/
theorem sameFromInside_of_alike (h : w.AlikeInside (buildNodes workspaceRoot w c).1 w') :
    SameFromInside workspaceRoot w w' c := by
  have hgraph : buildNodes workspaceRoot w c = buildNodes workspaceRoot w' c :=
    buildNodes_of_alike h
  refine ⟨congrArg Prod.fst hgraph, congrArg Prod.snd hgraph, ?_, ?_⟩
  · rw [← hgraph]
    refine buildEdges_of_alike (fun name hname => ?_) h
    by_contra hne
    exact hname ((knows_buildNodes_iff name).2 hne)
  · refine reportedAlike_of_names c fun name => ?_
    rw [map_eq_of_forall₂ h fun p q hpq => hpq.name]

/-- The packages of `shadowedWorkspace` among some from outside, one of which has the name and
the place of the shadowed crate, with more dependencies than before. -/
def crowdedWorkspace : Workspace :=
  ⟨[⟨"legacy", .ofText "/ws/legacy/Cargo.toml", ["legacy_v2"], some "registry+index"⟩,
    ⟨"legacy", .ofText "/ws/legacy/Cargo.toml", ["serde", "util", "rust:serde"], none⟩,
    ⟨"serde", .ofText "/registry/serde/Cargo.toml", [], some "registry+index"⟩,
    ⟨"util", .ofText "/ws/util/Cargo.toml", [""], none⟩,
    ⟨"legacy_v2", .ofText "/ws/legacy_v2/Cargo.toml", ["serde"], none⟩]⟩

theorem sameFromInside_crowded :
    shadowedWorkspace.AlikeInside (buildNodes (.ofText "/ws") shadowedWorkspace shadowingConfig).1
        crowdedWorkspace ∧
      SameFromInside (.ofText "/ws") shadowedWorkspace crowdedWorkspace shadowingConfig ∧
      buildEdges (.ofText "/ws") crowdedWorkspace
          (buildNodes (.ofText "/ws") crowdedWorkspace shadowingConfig).1 =
        [⟨"legacy", "rust:util", .static, "legacy/Cargo.toml"⟩] := by
  have hmembers : crowdedWorkspace.members =
      [⟨"legacy", .ofText "/ws/legacy/Cargo.toml", ["serde", "util", "rust:serde"], none⟩,
        ⟨"util", .ofText "/ws/util/Cargo.toml", [""], none⟩,
        ⟨"legacy_v2", .ofText "/ws/legacy_v2/Cargo.toml", ["serde"], none⟩] := by
    decide
  have halike : shadowedWorkspace.AlikeInside
      (buildNodes (.ofText "/ws") shadowedWorkspace shadowingConfig).1 crowdedWorkspace := by
    rw [Workspace.AlikeInside, hmembers]
    exact .cons ⟨rfl, rfl, by decide +kernel⟩ (.cons ⟨rfl, rfl, by decide +kernel⟩
      (.cons ⟨rfl, rfl, by decide +kernel⟩ .nil))
  have hsame := sameFromInside_of_alike halike
  refine ⟨halike, hsame, ?_⟩
  rw [← hsame.edges]
  decide +kernel

end CrateGraph
