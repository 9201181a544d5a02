import CrateGraph.Proofs.Resolver

/-!
# Which claim on a name prevails

A name may be claimed by many nodes, by some as the name of their project and by others as that
of their crate, in any order. Projects prevail over crates, whenever they come, and of crates the
first one does. No claim is in vain in the sense that it leaves its name without a holder, so
the names that lead anywhere are those that were claimed.

## Main results

* `mem_keys_ofNodes_iff`, `size_ofNodes` — which names lead anywhere, and how many.
* `resolve?_of_first` — of crates with one name the first prevails.
* `projectsPrevail_foldl_register` — what a resolver answers after any registrations.
-/

namespace CrateGraph.Resolver

/-- The names that nodes claim: those of their projects, and of their crates if these have a
name at all. -/
def claimed (nodes : List Node) : Finset String :=
  (nodes.map Node.name).toFinset ∪ (nodes.map Node.packageName).toFinset.erase ""

/-- What a resolver answers if nodes have registered in the order of a list: project names
prevail, and then the first crate. -/
structure ProjectsPrevail (nodes : List Node) (r : Resolver) : Prop where
  project : ∀ x, (∃ n ∈ nodes, n.name = x) → r.resolve? x = some x
  package : ∀ x before n after, x ≠ "" → (∀ m ∈ nodes, m.name ≠ x) →
    nodes = before ++ n :: after → n.packageName = x → (∀ m ∈ before, m.packageName ≠ x) →
      r.resolve? x = some n.name
  nowhere : ∀ x, (∀ n ∈ nodes, n.name ≠ x) → (x = "" ∨ ∀ n ∈ nodes, n.packageName ≠ x) →
    r.resolve? x = none
  size : r.size = (claimed nodes).card

variable {nodes : List Node} {x : String}

theorem mem_claimed_iff (nodes : List Node) (x : String) :
    x ∈ claimed nodes ↔ ∃ n ∈ nodes, x = n.name ∨ x = n.packageName ∧ x ≠ "" := by
  simp only [claimed, Finset.mem_union, Finset.mem_erase, List.mem_toFinset, List.mem_map]
  constructor
  · rintro (⟨n, hn, rfl⟩ | ⟨hx, n, hn, rfl⟩)
    · exact ⟨n, hn, .inl rfl⟩
    · exact ⟨n, hn, .inr ⟨rfl, hx⟩⟩
  · rintro ⟨n, hn, rfl | ⟨rfl, hx⟩⟩
    · exact .inl ⟨n, hn, rfl⟩
    · exact .inr ⟨hx, n, hn, rfl⟩

/-- A name leads anywhere exactly if it was claimed. -/
theorem mem_keys_ofNodes_iff (nodes : List Node) (x : String) :
    x ∈ (ofNodes nodes).aliases.keys ↔ x ∈ claimed nodes := by
  have hnone : (ofNodes nodes).aliases.find? x = none ↔ x ∉ claimed nodes := by
    have hresolve := resolve?_ofNodes_eq_none_iff nodes x
    rw [resolve?, Option.map_eq_none_iff] at hresolve
    rw [hresolve, mem_claimed_iff]
    simp only [mem_names_iff]
    push Not
    rfl
  rw [Table.mem_keys_iff, ← Option.isSome_iff_exists, Option.isSome_iff_ne_none, Ne, hnone, not_not]

theorem size_ofNodes (nodes : List Node) : (ofNodes nodes).size = (claimed nodes).card := by
  have hkeys : (ofNodes nodes).aliases.keys.toFinset = claimed nodes := by
    ext x
    rw [List.mem_toFinset, mem_keys_ofNodes_iff]
  rw [← hkeys, List.toFinset_card_of_nodup (Table.nodup_keys _), Table.keys, List.length_map]
  rfl

/-- Of crates with one name the first prevails, if no project has that name. -/
theorem resolve?_of_first {before after : List Node} {n : Node} (hx : x ≠ "")
    (hnone : ∀ m ∈ nodes, m.name ≠ x) (hlist : nodes = before ++ n :: after)
    (hn : n.packageName = x) (hbefore : ∀ m ∈ before, m.packageName ≠ x) :
    (ofNodes nodes).resolve? x = some n.name := by
  have hproject : ¬∃ m ∈ nodes, m.name = x := fun ⟨m, hm, hmx⟩ => hnone m hm hmx
  have hfirst : nodes.find? (fun m => m.packageName = x) = some n := by
    rw [List.find?_eq_some_iff_append]
    refine ⟨decide_eq_true hn, before, after, hlist, ?_⟩
    intro m hm
    simpa using hbefore m hm
  rw [resolve?_of_package hx hproject, hfirst, Option.map_some]

/-- Whatever registers, and in whichever order, project names prevail, and then the first
crate. -/
theorem projectsPrevail_foldl_register (nodes : List Node) :
    ProjectsPrevail nodes (nodes.foldl register empty) where
  project _ h := resolve?_of_project h
  package _ _ _ _ hx hnone hlist hn hbefore := resolve?_of_first hx hnone hlist hn hbefore
  nowhere x hproject hpackage := by
    refine (resolve?_ofNodes_eq_none_iff nodes x).2 fun n hn => ?_
    rw [mem_names_iff]
    rintro (hname | ⟨hcrate, hx⟩)
    · exact hproject n hn hname.symm
    · rcases hpackage with hempty | hother
      · exact hx hempty
      · exact hother n hn hcrate.symm
  size := size_ofNodes nodes

end CrateGraph.Resolver
