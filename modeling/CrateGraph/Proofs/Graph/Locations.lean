import CrateGraph.Proofs.Graph.Classification
import CrateGraph.Proofs.Graph.Edges
import CrateGraph.Proofs.Path.Unreachable

/-!
# Where the paths of a graph lead

A graph names directories and files by their paths from the root of the workspace. If the
root and the manifest of a package are given by absolute paths without steps up, then each
path that is emitted for the package leads from the root back to the directory or file that
it is for, be it inside of the workspace or outside. So no two directories are confused, and
a package loses its node only to a package in the same directory.

What is emitted is text, so the names that are written have to be text for that. Those that a
directory shares with the root from the start are not written, and can be anything.

## Main results

* `components_manifestDir` — the directory of a manifest is one step up from it.
* `exists_emits_of_mem_buildEdges` — every edge is emitted by a package at its turn.
* `size_buildNodes` — where no two packages have one root, there is a node for each.
* `pathsLeadBack` — when an emitted path leads back.
* `not_leadsTo_strange_slashed` — names that are no text are confused, and so is the root.
* `buildNodes_congr`, `buildEdges_congr` — how the root of the workspace is written does not
  matter.
-/

namespace CrateGraph

/-- Whether the manifest of a package is given by an absolute path, without steps up, that
is not the root directory, however that is spelled. -/
structure Package.Located (p : Package) : Prop where
  plain : p.manifestPath.Plain
  notRoot : ¬p.manifestPath.Same (.ofText "/")

/-- The component of the sources of a package. -/
def srcComponent : Component := .name (Text.toBytes "src")

/-- Whether an edge is drawn when it is the turn of a package, after others were drawn. -/
def Emits (g : ProjectGraph) (workspaceRoot : Path) (drawn : List Edge) (p : Package)
    (e : Edge) : Prop :=
  e ∈ addEdges g.resolver workspaceRoot drawn p ∧ e ∉ drawn

/-- The paths that are emitted at a root lead back to what they are emitted for, exactly if what is
written of it is text. -/
structure PathsLeadBack (workspaceRoot : Path) (c : Config) : Prop where
  node : ∀ w : Workspace, ∀ p ∈ w.members, p.Located →
    ∃ n, (buildNodes workspaceRoot w c).1.nodes.find? (rootOf workspaceRoot p) = some n ∧
      (Path.LeadsTo workspaceRoot n.root p.manifestDir.components ↔
        p.manifestDir.TextFrom workspaceRoot) ∧
      (Path.LeadsTo workspaceRoot n.sourceRoot (p.manifestDir.components ++ [srcComponent]) ↔
        p.manifestDir.TextFrom workspaceRoot)
  edge : ∀ g drawn p e, p.Located → Emits g workspaceRoot drawn p e →
    (Path.LeadsTo workspaceRoot e.sourceFile p.manifestPath.components ↔
      p.manifestPath.TextFrom workspaceRoot)
  emitted : ∀ w g, ∀ e ∈ buildEdges workspaceRoot w g,
    ∃ before p after, w.members = before ++ p :: after ∧
      Emits g workspaceRoot (before.foldl (addEdges g.resolver workspaceRoot) []) p e
  /-- Where the manifest is given by a text, everything is. -/
  text : ∀ p : Package, p.Located → (∃ t, p.manifestPath = .ofText t) →
    p.manifestDir.TextFrom workspaceRoot ∧ p.manifestPath.TextFrom workspaceRoot
  here : ∀ p : Package, p.Located → (nodeOf workspaceRoot c p).root = "." →
    p.manifestDir.Same workspaceRoot
  apart : ∀ p q : Package, p.Located → q.Located → p.manifestDir.TextFrom workspaceRoot →
    q.manifestDir.TextFrom workspaceRoot →
    (nodeOf workspaceRoot c p).root = (nodeOf workspaceRoot c q).root →
      p.manifestDir.Same q.manifestDir
  represented : ∀ w : Workspace,
    (∀ p ∈ w.members, p.Located ∧ p.manifestDir.TextFrom workspaceRoot) →
    (w.members.Pairwise fun p q => ¬p.manifestDir.Same q.manifestDir) →
      (∀ p ∈ w.members, (buildNodes workspaceRoot w c).1.nodes.find? (rootOf workspaceRoot p) =
        some (nodeOf workspaceRoot c p)) ∧
      (buildNodes workspaceRoot w c).1.size = w.members.length

variable {workspaceRoot : Path} {p q : Package}

/-! ## The directory of a manifest -/

theorem components_manifestDir (h : p.Located) :
    p.manifestDir.components = p.manifestPath.components.dropLast ∧ p.manifestDir.Plain := by
  have hroot : p.manifestPath.components ≠ [.root] := by
    have hread : (Path.ofText "/").components = [.root] := by decide
    intro he
    exact h.notRoot (he.trans hread.symm)
  obtain ⟨dir, hparent, habs, hcomponents⟩ := Path.components_parent? h.plain.absolute hroot
  have hdir : p.manifestDir = dir := by
    rw [Package.manifestDir, hparent, Option.getD_some]
  rw [hdir]
  refine ⟨hcomponents, habs, ?_⟩
  rw [hcomponents]
  exact fun hup => h.plain.noUp (List.mem_of_mem_dropLast hup)

theorem textFrom_of_ofText (h : p.Located) (htext : ∃ t, p.manifestPath = .ofText t)
    (workspaceRoot : Path) :
    p.manifestDir.TextFrom workspaceRoot ∧ p.manifestPath.TextFrom workspaceRoot := by
  obtain ⟨t, ht⟩ := htext
  have hmanifest : ∀ c ∈ p.manifestPath.components, c.IsText :=
    ht ▸ Path.isText_of_mem_components t
  have hdir : ∀ c ∈ p.manifestDir.components, c.IsText := by
    rw [(components_manifestDir h).1]
    exact fun c hc => hmanifest c (List.mem_of_mem_dropLast hc)
  exact ⟨Path.textFrom_of_components hdir workspaceRoot,
    Path.textFrom_of_components hmanifest workspaceRoot⟩

/-- The root of a package leads back to the directory of its manifest if that is text. -/
theorem leadsTo_rootOf_iff (hroot : workspaceRoot.Plain) (h : p.Located) :
    Path.LeadsTo workspaceRoot (rootOf workspaceRoot p) p.manifestDir.components ↔
      p.manifestDir.TextFrom workspaceRoot :=
  Path.leadsTo_relativeTo_iff (components_manifestDir h).2 hroot

/-- The sources of a package are where its root leads, and one step further. -/
theorem leadsTo_sourceRootOf {place : List Component}
    (h : Path.LeadsTo workspaceRoot (rootOf workspaceRoot p) place) :
    Path.LeadsTo workspaceRoot (sourceRootOf (rootOf workspaceRoot p))
      (place ++ [srcComponent]) := by
  have hslash : '/' ∉ "src".toList := by decide
  exact h.joinRoot (Path.relativeTo_ne_empty _ _) hslash (by decide)

theorem leadsTo_sourceRootOf_iff (hroot : workspaceRoot.Plain) (h : p.Located) :
    Path.LeadsTo workspaceRoot (sourceRootOf (rootOf workspaceRoot p))
        (p.manifestDir.components ++ [srcComponent]) ↔
      p.manifestDir.TextFrom workspaceRoot := by
  rw [← leadsTo_rootOf_iff hroot h]
  constructor
  · intro hsources
    obtain ⟨shared, rest, -, hleads⟩ :=
      Path.leadsTo_relativeTo (components_manifestDir h).2 hroot
    have hplace := hsources.unique (leadsTo_sourceRootOf hleads)
    exact List.append_cancel_right hplace ▸ hleads
  · exact leadsTo_sourceRootOf

theorem same_of_rootOf_eq (hroot : workspaceRoot.Plain) (hp : p.Located) (hq : q.Located)
    (hptext : p.manifestDir.TextFrom workspaceRoot)
    (hqtext : q.manifestDir.TextFrom workspaceRoot)
    (h : rootOf workspaceRoot p = rootOf workspaceRoot q) :
    p.manifestDir.Same q.manifestDir := by
  have hleads := (leadsTo_rootOf_iff hroot hq).2 hqtext
  rw [← h] at hleads
  show p.manifestDir.components = q.manifestDir.components
  exact ((leadsTo_rootOf_iff hroot hp).2 hptext).unique hleads

/-! ## Nodes -/

@[simp]
theorem nodeOf_sourceRoot (workspaceRoot : Path) (c : Config) (p : Package) :
    (nodeOf workspaceRoot c p).sourceRoot = sourceRootOf (rootOf workspaceRoot p) := by
  unfold nodeOf
  split <;> simp only [materializedNode, structuralNode]

/-- Where no two packages have one root, there are as many nodes as packages. -/
theorem size_buildNodes {w : Workspace} {c : Config}
    (hw : (w.members.map (rootOf workspaceRoot)).Nodup) :
    (buildNodes workspaceRoot w c).1.size = w.members.length := by
  have hkeys : (buildNodes workspaceRoot w c).1.nodes.keys.Perm
      (w.members.map (rootOf workspaceRoot)) := by
    rw [List.perm_ext_iff_of_nodup (Table.nodup_keys _) hw]
    intro root
    rw [mem_keys_buildNodes_iff, List.mem_map]
  have hlen := hkeys.length_eq
  rwa [List.length_map, Table.keys, List.length_map] at hlen

/-- Packages in different directories have different roots. -/
theorem nodup_rootOf {w : Workspace} (hroot : workspaceRoot.Plain)
    (hw : ∀ p ∈ w.members, p.Located ∧ p.manifestDir.TextFrom workspaceRoot)
    (h : w.members.Pairwise fun p q => ¬p.manifestDir.Same q.manifestDir) :
    (w.members.map (rootOf workspaceRoot)).Nodup := by
  rw [List.Nodup, List.pairwise_map]
  refine h.imp_of_mem ?_
  intro p q hp hq hne heq
  exact hne (same_of_rootOf_eq hroot (hw p hp).1 (hw q hq).1 (hw p hp).2 (hw q hq).2 heq)

/-! ## Edges -/

theorem sourceFile_of_emits {g : ProjectGraph} {drawn : List Edge} {e : Edge}
    (h : Emits g workspaceRoot drawn p e) :
    e.sourceFile = Path.relativeTo p.manifestPath workspaceRoot := by
  obtain ⟨hmem, hnew⟩ := h
  rw [addEdges_eq] at hmem
  have hasked := (First.mem_of_mem_foldl_keep hmem).resolve_left hnew
  exact ((mem_edgesFor_iff _ _ _ _ _).1 hasked).2.1

/-- Every edge is emitted by a package at its turn. -/
theorem exists_emits_of_mem_buildEdges {w : Workspace} {g : ProjectGraph} {e : Edge}
    (h : e ∈ buildEdges workspaceRoot w g) :
    ∃ before p after, w.members = before ++ p :: after ∧
      Emits g workspaceRoot (before.foldl (addEdges g.resolver workspaceRoot) []) p e := by
  unfold buildEdges at h
  generalize w.members = l at h
  induction l using List.reverseRecOn with
  | nil => cases h
  | append_singleton l p ih =>
      by_cases hearlier : e ∈ l.foldl (addEdges g.resolver workspaceRoot) []
      · obtain ⟨before, q, after, hl, hemits⟩ := ih hearlier
        exact ⟨before, q, after ++ [p], by simp [hl], hemits⟩
      · rw [List.foldl_append, List.foldl_cons, List.foldl_nil] at h
        exact ⟨l, p, [], rfl, h, hearlier⟩

/-! ## The root of the workspace -/

theorem rootOf_congr {workspaceRoot' : Path} (h : workspaceRoot.Same workspaceRoot') :
    rootOf workspaceRoot = rootOf workspaceRoot' := by
  funext p
  exact Path.relativeTo_congr h p.manifestDir

/-- The graph of a workspace does not depend on how its root is written. -/
theorem buildNodes_congr {workspaceRoot' : Path} (h : workspaceRoot.Same workspaceRoot')
    (w : Workspace) (c : Config) : buildNodes workspaceRoot w c = buildNodes workspaceRoot' w c := by
  have hnode : nodeOf workspaceRoot c = nodeOf workspaceRoot' c := by
    funext p
    simp only [nodeOf, rootOf_congr h]
  simp only [buildNodes, hnode]

/-- Neither do its edges. -/
theorem buildEdges_congr {workspaceRoot' : Path} (h : workspaceRoot.Same workspaceRoot')
    (w : Workspace) (g : ProjectGraph) :
    buildEdges workspaceRoot w g = buildEdges workspaceRoot' w g := by
  have hstep : addEdges g.resolver workspaceRoot = addEdges g.resolver workspaceRoot' := by
    funext edges p
    simp only [addEdges, Path.relativeTo_congr h]
  simp only [buildEdges, hstep]

/-! ## Every path leads back -/

theorem pathsLeadBack (hroot : workspaceRoot.Plain) (c : Config) :
    PathsLeadBack workspaceRoot c where
  node w p hp hlocated := by
    have hsome : rootOf workspaceRoot p ∈ (buildNodes workspaceRoot w c).1.nodes.keys :=
      (mem_keys_buildNodes_iff workspaceRoot w c _).2 ⟨p, hp, rfl⟩
    obtain ⟨n, hn⟩ := (Table.mem_keys_iff _ _).1 hsome
    refine ⟨n, hn, ?_⟩
    -- The node may be that of another package, but it has the root of this one.
    rw [find?_nodes_eq_map, Option.map_eq_some_iff] at hn
    obtain ⟨q, hq, rfl⟩ := hn
    have hshared : rootOf workspaceRoot q = rootOf workspaceRoot p := by
      simpa using List.find?_some hq
    rw [nodeOf_root, nodeOf_sourceRoot, hshared]
    exact ⟨leadsTo_rootOf_iff hroot hlocated, leadsTo_sourceRootOf_iff hroot hlocated⟩
  edge g drawn p e hlocated hemits := by
    rw [sourceFile_of_emits hemits]
    exact Path.leadsTo_relativeTo_iff hlocated.plain hroot
  emitted w g e he := exists_emits_of_mem_buildEdges he
  text p hlocated htext := textFrom_of_ofText hlocated htext workspaceRoot
  here p hlocated hdot := by
    rw [nodeOf_root] at hdot
    have hwhere := (Path.relativeTo_eq_here_iff (components_manifestDir hlocated).2.absolute).1 hdot
    simpa [hroot.absolute] using hwhere
  apart p q hp hq hptext hqtext h := by
    rw [nodeOf_root, nodeOf_root] at h
    exact same_of_rootOf_eq hroot hp hq hptext hqtext h
  represented w hw h := by
    have hroots := nodup_rootOf hroot hw h
    exact ⟨fun p hp => find?_rootOf_of_nodup hroots hp, size_buildNodes hroots⟩

/-- A package in the root of its workspace. -/
def rootPackage : Package := ⟨"app", .ofText "/home/ws/Cargo.toml", ["shim"], none⟩

/-- A package outside of the workspace it belongs to. -/
def vendoredPackage : Package := ⟨"shim", .ofText "//vendor/./shim/Cargo.toml", [], none⟩

/-- A workspace with a package in its root and one outside of it. -/
def vendoringWorkspace : Workspace := ⟨[rootPackage, vendoredPackage]⟩

private theorem rootPackage_located : rootPackage.Located :=
  ⟨⟨by decide +kernel, by decide +kernel⟩, by decide +kernel⟩

private theorem vendoredPackage_located : vendoredPackage.Located :=
  ⟨⟨by decide +kernel, by decide +kernel⟩, by decide +kernel⟩

theorem pathsLeadBack_vendored :
    (Path.ofText "/home/ws").Plain ∧ (∀ p ∈ vendoringWorkspace.members, p.Located) ∧
      Path.LeadsTo (.ofText "/home/ws") "../../vendor/shim" vendoredPackage.manifestDir.components ∧
      Path.LeadsTo (.ofText "/home/ws") "Cargo.toml" rootPackage.manifestPath.components ∧
      (buildNodes (.ofText "/home/ws") vendoringWorkspace Config.default).1.size = 2 := by
  have hroot : (Path.ofText "/home/ws").Plain := ⟨by decide +kernel, by decide +kernel⟩
  have hlocated : ∀ p ∈ vendoringWorkspace.members, p.Located := by
    intro p hp
    rcases List.mem_pair.1 hp with rfl | rfl
    · exact rootPackage_located
    · exact vendoredPackage_located
  have h := pathsLeadBack hroot Config.default
  have htext : ∀ p ∈ vendoringWorkspace.members,
      p.manifestDir.TextFrom (.ofText "/home/ws") ∧
        p.manifestPath.TextFrom (.ofText "/home/ws") := by
    intro p hp
    refine h.text p (hlocated p hp) ?_
    rcases List.mem_pair.1 hp with rfl | rfl <;> exact ⟨_, rfl⟩
  let g := (buildNodes (.ofText "/home/ws") vendoringWorkspace Config.default).1
  refine ⟨hroot, hlocated, ?_, ?_, ?_⟩
  · obtain ⟨n, hn, hleads, -⟩ :=
      h.node vendoringWorkspace vendoredPackage (by decide +kernel) vendoredPackage_located
    have hwritten : (g.nodes.find? (rootOf (.ofText "/home/ws") vendoredPackage)).map Node.root =
        some "../../vendor/shim" := by
      decide +kernel
    rw [hn] at hwritten
    exact Option.some.inj hwritten ▸ hleads.2 (htext vendoredPackage (by decide +kernel)).1
  · have hleads := h.edge g [] rootPackage ⟨"rust:app", "rust:shim", .static, "Cargo.toml"⟩
      rootPackage_located ⟨by decide +kernel, by decide⟩
    exact hleads.2 (htext rootPackage (by decide +kernel)).2
  · exact (h.represented vendoringWorkspace
      (fun p hp => ⟨hlocated p hp, (htext p hp).1⟩) (by decide +kernel)).2

/-! ## Where paths do not lead back -/

/-- A manifest in a directory below `/ws` that has one byte for a name. -/
def strangeManifest (b : UInt8) : Path :=
  ⟨Text.toBytes "/ws/" ++ b :: Text.toBytes "/Cargo.toml"⟩

/-- Two packages in directories whose names are no text. -/
def strangeWorkspace : Workspace :=
  ⟨[⟨"first", strangeManifest 0xff, [], none⟩, ⟨"second", strangeManifest 0xfe, [], none⟩]⟩

/-- A package whose manifest is the root directory, which has no parent, with one slash too many. -/
def slashedPackage : Package := ⟨"first", .ofText "//", [], none⟩

/-- That package, and one in the root of the workspace. -/
def slashedWorkspace : Workspace :=
  ⟨[slashedPackage, ⟨"second", .ofText "/ws/Cargo.toml", [], none⟩]⟩

/-- Whether packages have one node between them, with this root, although no two are in one
directory. -/
def Confuses (workspaceRoot : Path) (w : Workspace) (root : String) : Prop :=
  (w.members.Pairwise fun p q => ¬p.manifestDir.Same q.manifestDir) ∧
    (buildNodes workspaceRoot w Config.default).1.size = 1 ∧
    ∀ p ∈ w.members, ((buildNodes workspaceRoot w Config.default).1.nodes.find?
      (rootOf workspaceRoot p)).map Node.root = some root

/-- Names that are no text are shown alike. So two packages in different directories have one root,
which leads back to neither, and one of the two is lost. The same happens where a manifest is the
root directory, even if it is not spelled `/`: the root of its package is that of the workspace. -/
theorem not_leadsTo_strange_slashed :
    (Path.ofText "/ws").Plain ∧
      (∀ p ∈ strangeWorkspace.members, p.Located ∧
        ¬Path.LeadsTo (.ofText "/ws") "\uFFFD" p.manifestDir.components) ∧
      Confuses (.ofText "/ws") strangeWorkspace "\uFFFD" ∧
      (∀ p ∈ slashedWorkspace.members,
        p.manifestPath.Plain ∧ p.manifestPath ≠ .ofText "/") ∧
      ¬Path.LeadsTo (.ofText "/ws") "." slashedPackage.manifestDir.components ∧
      Confuses (.ofText "/ws") slashedWorkspace "." := by
  have hstrange : Confuses (.ofText "/ws") strangeWorkspace "\uFFFD" :=
    ⟨by decide +kernel, by decide +kernel, by decide +kernel⟩
  have hslashed : Confuses (.ofText "/ws") slashedWorkspace "." :=
    ⟨by decide +kernel, by decide +kernel, by decide +kernel⟩
  refine ⟨⟨by decide +kernel, by decide +kernel⟩, ?_, hstrange, ?_,
    fun h => absurd h.2 (by decide +kernel), hslashed⟩
  · intro p hp
    rcases List.mem_pair.1 hp with rfl | rfl <;>
      exact ⟨⟨⟨by decide +kernel, by decide +kernel⟩, by decide +kernel⟩,
        fun h => absurd h.2 (by decide +kernel)⟩
  · intro p hp
    rcases List.mem_pair.1 hp with rfl | rfl <;>
      exact ⟨⟨by decide +kernel, by decide +kernel⟩, by decide +kernel⟩

end CrateGraph
