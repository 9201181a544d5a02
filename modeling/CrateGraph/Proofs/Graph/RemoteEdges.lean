import CrateGraph.Json.Printer
import CrateGraph.Proofs.Graph.Edges
import CrateGraph.Proofs.Metadata.Remote

/-!
# Edges from remote dependencies

Of a dependency only the name is kept, so a dependency on a package that is fetched from
elsewhere declares an edge if its name leads to a project. Such an edge is drawn unless the
pair is connected already. What that changes is found by taking the remote dependencies out
of a document: the nodes stay the same, and of the edges that are declared some are left
out.

## Main results

* `buildNodes_keepLocalOf` — the graph without remote dependencies is the same.
* `buildEdges_keepLocalOf` — and so are the edges, if no remote dependency declares any.
* `buildEdges_localOnly` — when exactly the edges of a document are the same.
* `not_buildEdges_localOnly_namesake` — a document for which they are not.
-/

namespace CrateGraph.Metadata

/-! ## Declared edges and their entries -/

/-- The edges that a package asks for, each with the entry that it is from. -/
def entryEdges (r : Resolver) (workspaceRoot : Path) (p : Package)
    (dependencies : List (String × Value)) : List (Edge × Value) :=
  match r.resolve? p.name with
  | none => []
  | some source =>
    dependencies.filterMap fun d =>
      (declaredEdge? r source (Path.relativeTo p.manifestPath workspaceRoot) d.1).map (·, d.2)

/-- The edges that a workspace asks for, each with the entry that it is from, given the trees
of its packages. -/
def documentEdges (r : Resolver) (workspaceRoot : Path) (w : Workspace) (packages : List Value) :
    List (Edge × Value) :=
  ((w.packages.zip packages).filter fun p => !p.1.isExternal).flatMap fun p =>
    entryEdges r workspaceRoot p.1 (p.1.dependencies.zip (entriesOf p.2))

variable {r : Resolver} {workspaceRoot : Path} {w : Workspace} {packages : List Value}
  {c : Config}

theorem map_fst_entryEdges (p : Package) (dependencies : List (String × Value)) :
    (entryEdges r workspaceRoot p dependencies).map Prod.fst =
      edgesFor r workspaceRoot p (dependencies.map Prod.fst) := by
  unfold entryEdges edgesFor
  cases r.resolve? p.name with
  | none => rfl
  | some source =>
      simp only [List.map_filterMap, List.filterMap_map, Option.map_map]
      congr 1
      funext d
      simp [Function.comp_def]

theorem filter_entryEdges (keep : Value → Bool) (p : Package)
    (dependencies : List (String × Value)) :
    (entryEdges r workspaceRoot p dependencies).filter (fun e => keep e.2) =
      entryEdges r workspaceRoot p (dependencies.filter fun d => keep d.2) := by
  unfold entryEdges
  cases r.resolve? p.name with
  | none => rfl
  | some source =>
      simp only [List.filter_filterMap, List.filterMap_filter]
      congr 1
      funext d
      cases declaredEdge? r source _ d.1 with
      | none => simp
      | some e => cases h : keep d.2 <;> simp [h]

/-! ## What stays the same -/

@[simp]
theorem nodeOf_keepLocal (p : Package) (entries : List Value) :
    nodeOf workspaceRoot c (keepLocal p entries) = nodeOf workspaceRoot c p :=
  nodeOf_congr rfl rfl workspaceRoot c

theorem members_keepLocalOf :
    (keepLocalOf w packages).members =
      ((w.packages.zip packages).filter fun p => !p.1.isExternal).map fun p =>
        keepLocal p.1 (entriesOf p.2) := by
  rw [Workspace.members, keepLocalOf, List.filter_map]
  rfl

section Decoded

variable (h : List.Forall₂ (fun item p => package .json item = .ok p) packages w.packages)

include h

theorem members_eq_map_fst :
    w.members = ((w.packages.zip packages).filter fun p => !p.1.isExternal).map Prod.fst := by
  have hfst : (w.packages.zip packages).map Prod.fst = w.packages :=
    List.map_fst_zip h.length_eq.ge
  rw [Workspace.members, ← hfst, List.filter_map, hfst]
  rfl

theorem buildNodes_keepLocalOf :
    buildNodes workspaceRoot (keepLocalOf w packages) c = buildNodes workspaceRoot w c := by
  have hnodes : (keepLocalOf w packages).members.map (nodeOf workspaceRoot c) =
      w.members.map (nodeOf workspaceRoot c) := by
    rw [members_keepLocalOf, members_eq_map_fst h, List.map_map, List.map_map]
    refine List.map_congr_left fun p _ => ?_
    simp
  rw [buildNodes, buildNodes, hnodes]

/-- Every dependency has its entry. -/
theorem map_fst_zip_entriesOf {p : Package × Value}
    (hp : p ∈ (w.packages.zip packages).filter fun p => !p.1.isExternal) :
    (p.1.dependencies.zip (entriesOf p.2)).map Prod.fst = p.1.dependencies := by
  have hzip : p ∈ w.packages.zip packages := List.mem_of_mem_filter hp
  have hdecoded : package .json p.2 = .ok p.1 := List.forall₂_zip h.flip hzip
  exact List.map_fst_zip (package_withoutRemote hdecoded).2.ge

theorem map_fst_documentEdges :
    (documentEdges r workspaceRoot w packages).map Prod.fst = declaredEdges r workspaceRoot w := by
  rw [documentEdges, declaredEdges, members_eq_map_fst h, List.map_flatMap, List.flatMap_map]
  refine List.flatMap_congr fun p hp => ?_
  rw [map_fst_entryEdges, map_fst_zip_entriesOf h hp]

omit h in
theorem map_fst_filter_documentEdges :
    ((documentEdges r workspaceRoot w packages).filter fun e => !isRemote e.2).map Prod.fst =
      declaredEdges r workspaceRoot (keepLocalOf w packages) := by
  rw [documentEdges, declaredEdges, members_keepLocalOf, List.filter_flatMap, List.map_flatMap,
    List.flatMap_map]
  refine List.flatMap_congr fun p _ => ?_
  rw [filter_entryEdges (fun entry => !isRemote entry), map_fst_entryEdges]
  rfl

/-- Without the remote dependencies of a workspace the edges are the same exactly if each
remote dependency that is the first to connect two projects is echoed by a local one. -/
theorem buildEdges_keepLocalOf_iff :
    buildEdges workspaceRoot (keepLocalOf w packages)
        (buildNodes workspaceRoot (keepLocalOf w packages) c).1 =
        buildEdges workspaceRoot w (buildNodes workspaceRoot w c).1 ↔
      First.Echoed Edge.ends Prod.fst (fun e => !isRemote e.2) []
        (documentEdges (buildNodes workspaceRoot w c).1.resolver workspaceRoot w packages) := by
  rw [buildNodes_keepLocalOf h, buildEdges_eq, buildEdges_eq, ← map_fst_documentEdges h,
    ← map_fst_filter_documentEdges, First.firsts_filter_iff]

/-- The edges are the same if no remote dependency declares one. -/
theorem buildEdges_keepLocalOf
    (hlocal : ∀ e ∈ documentEdges (buildNodes workspaceRoot w c).1.resolver workspaceRoot w
      packages, isRemote e.2 = false) :
    buildEdges workspaceRoot (keepLocalOf w packages)
        (buildNodes workspaceRoot (keepLocalOf w packages) c).1 =
      buildEdges workspaceRoot w (buildNodes workspaceRoot w c).1 := by
  rw [buildEdges_keepLocalOf_iff h]
  intro before e after hsplit hremote
  have hmem := hlocal e (by rw [hsplit]; simp)
  simp [hmem] at hremote

end Decoded

/-! ## Documents -/

/-- Taking the remote dependencies out of an accepted document leaves an accepted one. Its
edges are the same exactly if every remote dependency that is the first to declare an edge
between two projects is followed by a local one that declares this edge, and by no other new
one before it. -/
theorem buildEdges_localOnly {bytes : Bytes} {expected : Nat} {v : Value} {w : Workspace}
    (hv : Json.parse bytes = .ok v) (hw : parse bytes expected = .ok w) :
    ∃ w', ofValue expected (localOnly v) = .ok w' ∧
      (∀ bytes', Json.parse bytes' = .ok (localOnly v) → parse bytes' expected = .ok w') ∧
      ∀ workspaceRoot c,
        (buildEdges workspaceRoot w' (buildNodes workspaceRoot w' c).1 =
            buildEdges workspaceRoot w (buildNodes workspaceRoot w c).1 ↔
          First.Echoed Edge.ends Prod.fst (fun e => !isRemote e.2) []
            (documentEdges (buildNodes workspaceRoot w c).1.resolver workspaceRoot w
              (packagesOf v))) := by
  have hvalue : ofValue expected v = .ok w := by
    rw [parse, hv] at hw
    exact hw
  have hlocal := ofValue_localOnly hvalue
  refine ⟨_, hlocal, fun bytes' hbytes' => ?_, fun root c => ?_⟩
  · rw [parse, hbytes']
    exact hlocal
  · have hdoc := ((ofValue_ok_iff expected v w).1 hvalue).1
    exact buildEdges_keepLocalOf_iff (document_localOnly hdoc).2

/-! ## A namesake -/

/-- The tree of a package at the top of a workspace. -/
def packageTree (name : String) (dependencies : List Value) : Value :=
  .table [("dependencies", .list dependencies), ("features", .table []), ("id", .text name),
    ("manifest_path", .text ("/ws/" ++ name ++ "/Cargo.toml")), ("name", .text name),
    ("targets", .list []), ("version", .text "0.1.0")]

/-- The entry of a dependency on a package of the registry. -/
def registryEntry (name : String) : Value :=
  .table [("features", .list []), ("kind", .null), ("name", .text name),
    ("optional", .bool false), ("req", .text "*"),
    ("source", .text "registry+https://github.com/rust-lang/crates.io-index"),
    ("uses_default_features", .bool true)]

/-- A document in which a package of the workspace has the name of a package of the registry
that another one depends on. -/
def namesakeDocument : Value :=
  .table [("packages", .list [packageTree "app" [registryEntry "serde"], packageTree "serde" []]),
    ("target_directory", .text "/ws/target"), ("version", .int 1),
    ("workspace_members", .list []), ("workspace_root", .text "/ws")]

/-- The two packages of the document, with the dependencies of the first. -/
def namesakeWorkspace (dependencies : List String) : Workspace :=
  ⟨[⟨"app", .ofText "/ws/app/Cargo.toml", dependencies, none⟩,
    ⟨"serde", .ofText "/ws/serde/Cargo.toml", [], none⟩]⟩

/-- The text of a document. -/
def written (v : Value) : Bytes := Text.toBytes (Json.compact v)

private theorem parse_written_namesake :
    Json.parse (written namesakeDocument) = .ok namesakeDocument := by
  decide +kernel

private theorem parse_namesake :
    parse (written namesakeDocument) 1 = .ok (namesakeWorkspace ["serde"]) := by
  rw [parse, parse_written_namesake]
  decide +kernel

theorem buildEdges_localOnly_namesake :
    Json.parse (written namesakeDocument) = .ok namesakeDocument ∧
      parse (written namesakeDocument) 1 = .ok (namesakeWorkspace ["serde"]) ∧
      ∃ w', ofValue 1 (localOnly namesakeDocument) = .ok w' ∧
        (∀ bytes', Json.parse bytes' = .ok (localOnly namesakeDocument) →
          parse bytes' 1 = .ok w') ∧
        ∀ workspaceRoot c,
          (buildEdges workspaceRoot w' (buildNodes workspaceRoot w' c).1 =
              buildEdges workspaceRoot (namesakeWorkspace ["serde"])
                (buildNodes workspaceRoot (namesakeWorkspace ["serde"]) c).1 ↔
            First.Echoed Edge.ends Prod.fst (fun e => !isRemote e.2) []
              (documentEdges
                (buildNodes workspaceRoot (namesakeWorkspace ["serde"]) c).1.resolver
                workspaceRoot (namesakeWorkspace ["serde"]) (packagesOf namesakeDocument))) :=
  ⟨parse_written_namesake, parse_namesake,
    buildEdges_localOnly parse_written_namesake parse_namesake⟩

/-- Under the default configuration the dependency on the package of the registry is drawn as
one on the package of the workspace. -/
theorem not_buildEdges_localOnly_namesake :
    Config.default.validate = .ok () ∧
      parse (written namesakeDocument) 1 = .ok (namesakeWorkspace ["serde"]) ∧
      Json.parse (written namesakeDocument) = .ok namesakeDocument ∧
      Json.parse (written (localOnly namesakeDocument)) = .ok (localOnly namesakeDocument) ∧
      parse (written (localOnly namesakeDocument)) 1 = .ok (namesakeWorkspace []) ∧
      buildEdges (.ofText "/ws") (namesakeWorkspace [])
          (buildNodes (.ofText "/ws") (namesakeWorkspace []) Config.default).1 ≠
        buildEdges (.ofText "/ws") (namesakeWorkspace ["serde"])
          (buildNodes (.ofText "/ws") (namesakeWorkspace ["serde"]) Config.default).1 := by
  have hconfig : Config.default.validate = .ok () :=
    Config.validate_of_naming (n := Config.default.graph) (by decide) (by decide +kernel)
      (by decide +kernel)
  have hwritten : Json.parse (written (localOnly namesakeDocument)) =
      .ok (localOnly namesakeDocument) := by
    decide +kernel
  refine ⟨hconfig, parse_namesake, parse_written_namesake, hwritten, ?_, by decide +kernel⟩
  rw [parse, hwritten]
  decide +kernel

end CrateGraph.Metadata
