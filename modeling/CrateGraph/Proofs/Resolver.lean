import CrateGraph.Proofs.Table
import CrateGraph.Resolver

/-!
# Where names lead

A resolver is built by claims, one name at a time, and a later claim may take a name away
from an earlier one. What comes out can be said without any order but that of the nodes: a
name that is a project's leads to that project, and any other name to the first node whose
crate has it.

## Main results

* `find?_register` — what one node changes.
* `find?_ofNodes` — the holder of a name after any list of nodes.
* `resolve?_of_project`, `resolve?_of_package`, `exists_of_resolve?` — the same without
  mention of holders.
* `resolve?_ofNodes_eq_none_iff` — which names lead nowhere.
* `ofNodes_perm` — when the order of the nodes does not matter either.
-/

namespace CrateGraph.Resolver

/-- Who holds a name once the given nodes have registered in their order. -/
def holder? (nodes : List Node) (name : String) : Option Alias :=
  if ∃ n ∈ nodes, n.name = name then some ⟨name, .project⟩
  else if name = "" then none
  else (nodes.find? fun n => n.packageName = name).map fun n => ⟨n.name, .package⟩

/-- Who holds a name that was claimed. -/
def afterClaim (holder : Option Alias) (claimant : Alias) : Alias :=
  match holder with
  | none => claimant
  | some a => if gives a claimant then claimant else a

/-! ## One claim and one node -/

theorem find?_claim (r : Resolver) (name : String) (claimant : Alias) (x : String) :
    (r.claim name claimant).aliases.find? x =
      if x = name then some (afterClaim (r.aliases.find? name) claimant)
      else r.aliases.find? x := by
  unfold claim afterClaim
  cases h : r.aliases.find? name with
  | none => simp only [Table.find?_insert]
  | some a =>
      by_cases hg : gives a claimant
      · simp only [hg, if_true, Table.find?_insert]
      · simp only [hg]
        by_cases hx : x = name
        · subst hx
          simp [h]
        · simp [hx]

/-- A node takes its project name from any crate, and its crate name only from nobody. -/
theorem find?_register (r : Resolver) (n : Node) (x : String) :
    (r.register n).aliases.find? x =
      if x = n.name then some (afterClaim (r.aliases.find? x) ⟨n.name, .project⟩)
      else if x ≠ "" ∧ x = n.packageName then
        some ((r.aliases.find? x).getD ⟨n.name, .package⟩)
      else r.aliases.find? x := by
  have hkeep : ∀ o : Option Alias, afterClaim o ⟨n.name, .package⟩
      = o.getD ⟨n.name, .package⟩ := by
    intro o
    cases o with
    | none => rfl
    | some a => simp [afterClaim, gives]
  unfold register names
  by_cases hp : n.packageName ≠ "" ∧ n.packageName ≠ n.name
  · rw [if_pos hp]
    simp only [List.foldl_cons, List.foldl_nil, find?_claim, hkeep]
    grind
  · rw [if_neg hp]
    simp only [List.foldl_cons, List.foldl_nil, find?_claim]
    grind

/-! ## A list of nodes -/

theorem ofNodes_append (nodes : List Node) (n : Node) :
    ofNodes (nodes ++ [n]) = (ofNodes nodes).register n := by
  simp [ofNodes]

/-- A claimed project name is held by its own project, whoever held it before. -/
private theorem afterClaim_holder? (nodes : List Node) (name : String) :
    afterClaim (holder? nodes name) ⟨name, .project⟩ = ⟨name, .project⟩ := by
  unfold holder?
  by_cases hp : ∃ n ∈ nodes, n.name = name
  · rw [if_pos hp]
    simp [afterClaim]
  · rw [if_neg hp]
    split
    · rfl
    · cases nodes.find? fun n => n.packageName = name with
      | none => rfl
      | some n => simp [afterClaim, gives]

/-- A node that does not have a name as its project name takes it only from nobody. -/
private theorem holder?_append_of_ne {nodes : List Node} {n : Node} {x : String}
    (hx : x ≠ n.name) :
    holder? (nodes ++ [n]) x =
      if x ≠ "" ∧ x = n.packageName then some ((holder? nodes x).getD ⟨n.name, .package⟩)
      else holder? nodes x := by
  have hany : (∃ m ∈ nodes ++ [n], m.name = x) ↔ ∃ m ∈ nodes, m.name = x := by
    simp [or_and_right, exists_or, Ne.symm hx]
  by_cases hp : ∃ m ∈ nodes, m.name = x
  · simp only [holder?, hany, if_pos hp]
    simp
  · simp only [holder?, hany, if_neg hp]
    by_cases he : x = ""
    · simp [he]
    · simp only [if_neg he, List.find?_append]
      cases hf : nodes.find? fun m => m.packageName = x with
      | none =>
          by_cases hc : x = n.packageName
          · simp [he, ← hc]
          · simp [hc, Ne.symm hc]
      | some m => simp

theorem find?_ofNodes (nodes : List Node) (x : String) :
    (ofNodes nodes).aliases.find? x = holder? nodes x := by
  induction nodes using List.reverseRecOn with
  | nil => simp [ofNodes, holder?, empty]
  | append_singleton nodes n ih =>
      rw [ofNodes_append, find?_register, ih]
      by_cases hx : x = n.name
      · subst hx
        rw [if_pos rfl, afterClaim_holder?]
        simp [holder?]
      · rw [if_neg hx, holder?_append_of_ne hx]

/-! ## Without holders -/

variable {nodes : List Node} {x : String}

theorem resolve?_ofNodes (nodes : List Node) (x : String) :
    (ofNodes nodes).resolve? x = (holder? nodes x).map (·.project) := by
  rw [resolve?, find?_ofNodes]

/-- A project name leads to itself. -/
theorem resolve?_of_project (h : ∃ n ∈ nodes, n.name = x) :
    (ofNodes nodes).resolve? x = some x := by
  simp [resolve?_ofNodes, holder?, h]

/-- The name of a crate that no project has leads to the first node of that crate. -/
theorem resolve?_of_package (hx : x ≠ "") (h : ¬∃ n ∈ nodes, n.name = x) :
    (ofNodes nodes).resolve? x = (nodes.find? fun n => n.packageName = x).map (·.name) := by
  simp only [resolve?_ofNodes, holder?, if_neg h, if_neg hx, Option.map_map]
  rfl

/-- A name that leads anywhere leads to a node, and is the name of its project or crate. -/
theorem exists_of_resolve? {project : String}
    (h : (ofNodes nodes).resolve? x = some project) :
    ∃ n ∈ nodes, n.name = project ∧ (x = n.packageName ∨ x = n.name) := by
  by_cases hp : ∃ n ∈ nodes, n.name = x
  · rw [resolve?_of_project hp] at h
    obtain ⟨n, hn, rfl⟩ := hp
    exact ⟨n, hn, Option.some.inj h, .inr rfl⟩
  · by_cases hx : x = ""
    · rw [resolve?_ofNodes, holder?, if_neg hp, if_pos hx] at h
      cases h
    · rw [resolve?_of_package hx hp] at h
      obtain ⟨n, hn, rfl⟩ := Option.map_eq_some_iff.1 h
      have hcrate : n.packageName = x := by simpa using List.find?_some hn
      exact ⟨n, List.mem_of_find?_eq_some hn, rfl, .inl hcrate.symm⟩

/-- The names of a node are that of its project and, unless it is empty, that of its crate. -/
theorem mem_names_iff (n : Node) (x : String) :
    x ∈ (names n).map Prod.fst ↔ x = n.name ∨ x = n.packageName ∧ x ≠ "" := by
  unfold names
  by_cases h : n.packageName ≠ "" ∧ n.packageName ≠ n.name
  · rw [if_pos h]
    simp only [List.map_cons, List.map_nil, List.mem_cons, List.not_mem_nil, or_false]
    grind
  · rw [if_neg h]
    simp only [List.map_cons, List.map_nil, List.mem_cons, List.not_mem_nil, or_false]
    grind

/-- The names that lead nowhere are those that no node has. -/
theorem resolve?_ofNodes_eq_none_iff (nodes : List Node) (x : String) :
    (ofNodes nodes).resolve? x = none ↔ ∀ n ∈ nodes, x ∉ (names n).map Prod.fst := by
  simp only [mem_names_iff]
  rw [resolve?_ofNodes, Option.map_eq_none_iff, holder?]
  by_cases hp : ∃ n ∈ nodes, n.name = x
  · rw [if_pos hp]
    obtain ⟨n, hn, rfl⟩ := hp
    simp only [reduceCtorEq, false_iff]
    exact fun h => h n hn (.inl rfl)
  · rw [if_neg hp]
    have hproject : ∀ n ∈ nodes, x ≠ n.name := fun n hn he => hp ⟨n, hn, he.symm⟩
    by_cases hx : x = ""
    · simp only [if_pos hx, true_iff]
      rintro n hn (he | ⟨-, he⟩)
      · exact hproject n hn he
      · exact he hx
    · rw [if_neg hx, Option.map_eq_none_iff, List.find?_eq_none]
      refine forall₂_congr fun n hn => ?_
      simp [hproject n hn, hx, eq_comm]

/-! ## The order of the nodes -/

variable {nodes' : List Node}

private theorem find?_packageName_perm (h : nodes.Perm nodes')
    (hcrates : ∀ n ∈ nodes, ∀ m ∈ nodes, n.packageName = m.packageName → n.name = m.name)
    (x : String) :
    (nodes.find? fun n => n.packageName = x).map Node.name =
      (nodes'.find? fun n => n.packageName = x).map Node.name := by
  cases hfind : nodes.find? fun n => n.packageName = x with
  | none =>
      have hfind' : (nodes'.find? fun n => n.packageName = x) = none := by
        rw [List.find?_eq_none] at hfind ⊢
        exact fun n hn => hfind n (h.mem_iff.2 hn)
      rw [hfind']
  | some n =>
      have hn : n ∈ nodes := List.mem_of_find?_eq_some hfind
      have hcrate : n.packageName = x := by simpa using List.find?_some hfind
      have hsome : (nodes'.find? fun n => n.packageName = x).isSome := by
        rw [List.find?_isSome]
        exact ⟨n, h.mem_iff.1 hn, decide_eq_true hcrate⟩
      obtain ⟨m, hm⟩ := Option.isSome_iff_exists.1 hsome
      have hmem : m ∈ nodes := h.mem_iff.2 (List.mem_of_find?_eq_some hm)
      have hcrate' : m.packageName = x := by simpa using List.find?_some hm
      rw [hm, Option.map_some, Option.map_some, hcrates n hn m hmem (hcrate.trans hcrate'.symm)]

/-- Where crates of one name have projects of one name, it does not matter in which order the
nodes register. -/
theorem ofNodes_perm (h : nodes.Perm nodes')
    (hcrates : ∀ n ∈ nodes, ∀ m ∈ nodes, n.packageName = m.packageName → n.name = m.name) :
    ofNodes nodes = ofNodes nodes' := by
  have hholder : ∀ x, holder? nodes x = holder? nodes' x := by
    intro x
    have hproject : (∃ n ∈ nodes, n.name = x) ↔ ∃ n ∈ nodes', n.name = x := by
      simp only [h.mem_iff]
    have hcrate := congrArg (Option.map fun project => (⟨project, .package⟩ : Alias))
      (find?_packageName_perm h hcrates x)
    rw [Option.map_map, Option.map_map] at hcrate
    simp only [holder?, hproject]
    split
    · rfl
    · split
      · rfl
      · exact hcrate
  have haliases : (ofNodes nodes).aliases = (ofNodes nodes').aliases := by
    refine Table.ext_find? fun x => ?_
    rw [find?_ofNodes, find?_ofNodes, hholder]
  exact congrArg Resolver.mk haliases

end CrateGraph.Resolver
