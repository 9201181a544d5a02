import CrateGraph.Graph.Edges
import CrateGraph.Proofs.Graph.Nodes

/-!
# Which edges are drawn

Every declared dependency asks for an edge or for none, and what it asks for depends on
nothing but the resolver. The edges of a workspace are the first of each pair of projects
among all that are asked for, in the order of the packages and of their declarations.

## Main results

* `buildEdges_eq` — the edges as the first of each pair among the declared ones.
* `mem_declaredEdges_iff` — what is declared, without mention of an order.
* `exists_mem_buildEdges_iff` — which pairs of projects are connected.
-/

namespace CrateGraph

/-- The two projects of an edge. -/
def Edge.ends (e : Edge) : String × String := (e.source, e.target)

/-- The edge that a dependency asks for, if it is on another project. -/
def declaredEdge? (r : Resolver) (source sourceFile dependency : String) : Option Edge :=
  match r.resolve? dependency with
  | none => none
  | some target => if target = source then none else some ⟨source, target, .static, sourceFile⟩

/-- The edges that a package asks for, given its dependencies. -/
def edgesFor (r : Resolver) (workspaceRoot : Path) (p : Package) (dependencies : List String) :
    List Edge :=
  match r.resolve? p.name with
  | none => []
  | some source =>
    dependencies.filterMap
      (declaredEdge? r source (Path.relativeTo p.manifestPath workspaceRoot))

/-- The edges that the packages of a workspace ask for. -/
def declaredEdges (r : Resolver) (workspaceRoot : Path) (w : Workspace) : List Edge :=
  w.members.flatMap fun p => edgesFor r workspaceRoot p p.dependencies

/-! ## The loops -/

theorem connects_eq_false_iff (edges : List Edge) (e : Edge) :
    connects edges e.source e.target = false ↔ First.Fresh Edge.ends edges e := by
  simp [connects, First.Fresh, Edge.ends]

theorem addEdge_eq (r : Resolver) (source sourceFile : String) (edges : List Edge)
    (dependency : String) :
    addEdge r source sourceFile edges dependency =
      match declaredEdge? r source sourceFile dependency with
      | some e => First.keep Edge.ends edges e
      | none => edges := by
  unfold addEdge declaredEdge?
  cases r.resolve? dependency with
  | none => rfl
  | some target =>
      have h := connects_eq_false_iff edges ⟨source, target, .static, sourceFile⟩
      by_cases ht : target = source
      · simp [ht]
      · simp only [First.keep, ← h, ht, if_false]
        cases connects edges source target <;> simp

theorem addEdges_eq (r : Resolver) (workspaceRoot : Path) (edges : List Edge) (p : Package) :
    addEdges r workspaceRoot edges p =
      (edgesFor r workspaceRoot p p.dependencies).foldl (First.keep Edge.ends) edges := by
  unfold addEdges edgesFor
  cases r.resolve? p.name with
  | none => rfl
  | some source =>
      simp only [List.foldl_filterMap]
      congr 1
      funext acc dependency
      rw [addEdge_eq]
      cases declaredEdge? r source _ dependency <;> rfl

/-- The edges of a workspace are the first of each pair among those that are asked for. -/
theorem buildEdges_eq (workspaceRoot : Path) (w : Workspace) (g : ProjectGraph) :
    buildEdges workspaceRoot w g =
      First.firsts Edge.ends (declaredEdges g.resolver workspaceRoot w) := by
  unfold buildEdges declaredEdges First.firsts
  rw [List.foldl_flatMap]
  congr 1
  funext acc p
  exact addEdges_eq g.resolver workspaceRoot acc p

/-! ## What is asked for -/

theorem declaredEdge?_eq_some_iff (r : Resolver) (source sourceFile dependency : String)
    (e : Edge) :
    declaredEdge? r source sourceFile dependency = some e ↔
      r.resolve? dependency = some e.target ∧ e.target ≠ source ∧
        e = ⟨source, e.target, .static, sourceFile⟩ := by
  unfold declaredEdge?
  cases r.resolve? dependency with
  | none => simp
  | some target =>
      by_cases ht : target = source
      · subst ht
        simp only [if_true, reduceCtorEq, Option.some.injEq, false_iff]
        rintro ⟨h, hne, -⟩
        exact hne h.symm
      · simp only [if_neg ht, Option.some.injEq]
        constructor
        · rintro rfl
          exact ⟨rfl, ht, rfl⟩
        · rintro ⟨rfl, -, he⟩
          exact he.symm

theorem mem_edgesFor_iff (r : Resolver) (workspaceRoot : Path) (p : Package)
    (dependencies : List String) (e : Edge) :
    e ∈ edgesFor r workspaceRoot p dependencies ↔
      r.resolve? p.name = some e.source ∧
        e.sourceFile = Path.relativeTo p.manifestPath workspaceRoot ∧
          ∃ d ∈ dependencies, r.resolve? d = some e.target ∧ e.target ≠ e.source := by
  unfold edgesFor
  cases r.resolve? p.name with
  | none => simp
  | some source =>
      simp only [List.mem_filterMap, declaredEdge?_eq_some_iff, Option.some.injEq]
      constructor
      · rintro ⟨d, hd, ht, hne, he⟩
        have hs : e.source = source := congrArg Edge.source he
        have hf := congrArg Edge.sourceFile he
        exact ⟨hs.symm, hf, d, hd, ht, hs ▸ hne⟩
      · rintro ⟨rfl, hf, d, hd, ht, hne⟩
        refine ⟨d, hd, ht, hne, ?_⟩
        rw [← hf]

/-- What is declared: a package, one of its dependencies, and where both lead. -/
theorem mem_declaredEdges_iff (r : Resolver) (workspaceRoot : Path) (w : Workspace) (e : Edge) :
    e ∈ declaredEdges r workspaceRoot w ↔
      ∃ p ∈ w.members, r.resolve? p.name = some e.source ∧
        e.sourceFile = Path.relativeTo p.manifestPath workspaceRoot ∧
          ∃ d ∈ p.dependencies, r.resolve? d = some e.target ∧ e.target ≠ e.source := by
  simp only [declaredEdges, List.mem_flatMap, mem_edgesFor_iff]

theorem mem_declaredEdges_of_mem_buildEdges {workspaceRoot : Path} {w : Workspace}
    {g : ProjectGraph} {e : Edge} (h : e ∈ buildEdges workspaceRoot w g) :
    e ∈ declaredEdges g.resolver workspaceRoot w := by
  rw [buildEdges_eq] at h
  exact First.mem_of_mem_firsts h

/-- Two projects are connected exactly if some package and one of its dependencies lead to
them, and they differ. -/
theorem exists_mem_buildEdges_iff (workspaceRoot : Path) (w : Workspace) (g : ProjectGraph)
    (source target : String) :
    (∃ e ∈ buildEdges workspaceRoot w g, e.source = source ∧ e.target = target) ↔
      target ≠ source ∧ ∃ p ∈ w.members, g.resolver.resolve? p.name = some source ∧
        ∃ d ∈ p.dependencies, g.resolver.resolve? d = some target := by
  constructor
  · rintro ⟨e, he, rfl, rfl⟩
    obtain ⟨p, hp, hs, -, d, hd, ht, hne⟩ :=
      (mem_declaredEdges_iff _ _ _ _).1 (mem_declaredEdges_of_mem_buildEdges he)
    exact ⟨hne, p, hp, hs, d, hd, ht⟩
  · rintro ⟨hne, p, hp, hs, d, hd, ht⟩
    let e : Edge := ⟨source, target, .static, Path.relativeTo p.manifestPath workspaceRoot⟩
    have he : e ∈ declaredEdges g.resolver workspaceRoot w :=
      (mem_declaredEdges_iff _ _ _ e).2 ⟨p, hp, hs, rfl, d, hd, ht, hne⟩
    obtain ⟨e', he', hends⟩ : ∃ e' ∈ First.firsts Edge.ends _, e'.ends = e.ends :=
      First.exists_mem_firsts he
    rw [← buildEdges_eq] at he'
    exact ⟨e', he', congrArg Prod.fst hends, congrArg Prod.snd hends⟩

end CrateGraph
