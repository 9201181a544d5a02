import CrateGraph.Proofs.Graph.Edges

/-!
# Edges as a list of declarations

The packages of a workspace declare dependencies one after the other, and a graph says between
which projects each of them is. Written down in their order and without those that are not
between two projects, the declarations are a list, and the edges are this list without its
repetitions. The loop that draws the edges remembers what it has drawn across packages, because
two packages can be taken for one project; the list says the same without a memory.

## Main results

* `declaredEdges_eq_map` — what the packages ask for, in terms of their declarations.
* `firstDeclarations_buildEdges` — the edges are the first declarations of their pairs.
-/

namespace CrateGraph

/-- A dependency between two projects, and the package that declares it. -/
structure Declaration where
  source : String
  target : String
  package : Package
deriving DecidableEq, Repr

namespace Declaration

/-- The two projects of a declaration. -/
def ends (d : Declaration) : String × String := (d.source, d.target)

/-- The edge that a declaration is drawn as. -/
def edge (workspaceRoot : Path) (d : Declaration) : Edge where
  source := d.source
  target := d.target
  kind := .static
  sourceFile := Path.relativeTo d.package.manifestPath workspaceRoot

end Declaration

/-- What a package declares with a dependency, given where names lead to. -/
def declaration? (leads : String → Option String) (p : Package) (dependency : String) :
    Option Declaration :=
  match leads p.name, leads dependency with
  | some source, some target => if source ≠ target then some ⟨source, target, p⟩ else none
  | _, _ => none

/-- What the packages of a workspace declare, in their order and that of their dependencies. -/
def declarations (leads : String → Option String) (w : Workspace) : List Declaration :=
  w.members.flatMap fun p => p.dependencies.filterMap (declaration? leads p)

/-- Whether some package declares that a project depends on another one. -/
def DependsOn (leads : String → Option String) (w : Workspace) (source target : String) : Prop :=
  source ≠ target ∧ ∃ p ∈ w.members, leads p.name = some source ∧
    ∃ d ∈ p.dependencies, leads d = some target

/-- The edges are what the packages of a workspace declare, each pair of projects from its first
declaration. -/
structure FirstDeclarations (workspaceRoot : Path) (w : Workspace)
    (leads : String → Option String) (edges : List Edge) : Prop where
  pairs : edges.map Edge.ends = ((declarations leads w).map Declaration.ends).eraseDups
  drawn : ∀ e ∈ edges, ∃ d,
    (declarations leads w).find? (fun d => d.ends = e.ends) = some d ∧
      e = ⟨d.source, d.target, .static, Path.relativeTo d.package.manifestPath workspaceRoot⟩
  noLoop : ∀ e ∈ edges, e.source ≠ e.target
  once : (edges.map Edge.ends).Nodup
  connected : ∀ source target,
    connects edges source target = true ↔ DependsOn leads w source target
  cycles : ∀ project, Relation.TransGen (DependsOn leads w) project project ↔
    Relation.TransGen (fun source target => connects edges source target = true) project project

/-! ## What is asked for -/

theorem declaredEdge?_eq_map {r : Resolver} {p : Package} {source : String}
    (h : r.resolve? p.name = some source) (workspaceRoot : Path) (dependency : String) :
    declaredEdge? r source (Path.relativeTo p.manifestPath workspaceRoot) dependency =
      (declaration? r.resolve? p dependency).map (Declaration.edge workspaceRoot) := by
  unfold declaredEdge? declaration?
  rw [h]
  cases r.resolve? dependency with
  | none => rfl
  | some target =>
      by_cases ht : target = source
      · simp [ht]
      · simp [ht, Ne.symm ht, Declaration.edge]

theorem edgesFor_eq_map (r : Resolver) (workspaceRoot : Path) (p : Package) :
    edgesFor r workspaceRoot p p.dependencies =
      (p.dependencies.filterMap (declaration? r.resolve? p)).map
        (Declaration.edge workspaceRoot) := by
  unfold edgesFor
  cases h : r.resolve? p.name with
  | none =>
      have hnone : declaration? r.resolve? p = fun _ => none := by
        funext dependency
        simp [declaration?, h]
      simp [hnone]
  | some source =>
      rw [List.map_filterMap]
      exact List.filterMap_congr fun d _ => declaredEdge?_eq_map h workspaceRoot d

/-- The packages ask for an edge with each of their declarations. -/
theorem declaredEdges_eq_map (r : Resolver) (workspaceRoot : Path) (w : Workspace) :
    declaredEdges r workspaceRoot w =
      (declarations r.resolve? w).map (Declaration.edge workspaceRoot) := by
  unfold declaredEdges declarations
  rw [List.map_flatMap]
  congr 1
  funext p
  exact edgesFor_eq_map r workspaceRoot p

/-! ## The edges -/

variable (workspaceRoot : Path) (w : Workspace) (g : ProjectGraph)

theorem ends_buildEdges :
    (buildEdges workspaceRoot w g).map Edge.ends =
      ((declarations g.resolver.resolve? w).map Declaration.ends).eraseDups := by
  rw [buildEdges_eq, First.map_firsts, declaredEdges_eq_map, List.map_map]
  rfl

/-- An edge is drawn as the first declaration of its pair says. -/
theorem find?_declarations_of_mem {e : Edge} (h : e ∈ buildEdges workspaceRoot w g) :
    ∃ d, (declarations g.resolver.resolve? w).find? (fun d => d.ends = e.ends) = some d ∧
      e = d.edge workspaceRoot := by
  rw [buildEdges_eq, First.mem_firsts_iff, declaredEdges_eq_map, List.find?_map,
    Option.map_eq_some_iff] at h
  obtain ⟨d, hd, rfl⟩ := h
  exact ⟨d, hd, rfl⟩

theorem connects_buildEdges_iff (source target : String) :
    connects (buildEdges workspaceRoot w g) source target = true ↔
      DependsOn g.resolver.resolve? w source target := by
  have h := exists_mem_buildEdges_iff workspaceRoot w g source target
  simp only [connects, List.any_eq_true, Bool.and_eq_true, decide_eq_true_eq, DependsOn]
  rw [h, ne_comm]

theorem firstDeclarations_buildEdges :
    FirstDeclarations workspaceRoot w g.resolver.resolve? (buildEdges workspaceRoot w g) where
  pairs := ends_buildEdges workspaceRoot w g
  drawn _ he := find?_declarations_of_mem workspaceRoot w g he
  noLoop e he := by
    obtain ⟨p, -, -, -, d, -, -, hne⟩ :=
      (mem_declaredEdges_iff _ _ _ _).1 (mem_declaredEdges_of_mem_buildEdges he)
    exact hne.symm
  once := by
    rw [buildEdges_eq]
    exact First.nodup_firsts _
  connected := connects_buildEdges_iff workspaceRoot w g
  cycles project := by
    have hrel : (fun source target => connects (buildEdges workspaceRoot w g) source target = true)
        = DependsOn g.resolver.resolve? w := by
      funext source target
      exact propext (connects_buildEdges_iff workspaceRoot w g source target)
    rw [hrel]

/-- Two packages that are taken for one project share an edge, which names the manifest of the
first. -/
example :
    buildEdges (.ofText "/ws")
        ⟨[⟨"a", .ofText "/ws/a/Cargo.toml", ["c"], none⟩,
          ⟨"b", .ofText "/ws/b/Cargo.toml", ["c", "a"], none⟩]⟩
        ⟨.empty, ⟨.ofList [("a", ⟨"x", .package⟩), ("b", ⟨"x", .package⟩), ("c", ⟨"y", .package⟩)]⟩⟩ =
      [⟨"x", "y", .static, "a/Cargo.toml"⟩] := by
  decide +kernel

end CrateGraph
