import CrateGraph.Proofs.Graph.Order

/-!
# The resolver of a graph, made again

A graph is handed out with the resolver that was filled while the graph was made: in the order of
the packages, and without those that were passed over. Whoever has only the nodes can make a
resolver of them, in the order of their roots. It is the same one. That the order does not
matter is due to the configuration, which gives crates of one name projects of one name.

## Main results

* `values_perm_keptNodes` — the nodes of a graph, by root, are the kept ones.
* `resolver_eq_ofNodes_values` — the two resolvers are equal.
* `carriesResolver_buildNodes` — what follows for the names that they know.
-/

namespace CrateGraph

/-- A graph knows the names that a resolver made of its nodes knows, and leads them to the same
projects. -/
structure ProjectGraph.CarriesResolver (g : ProjectGraph) : Prop where
  resolved : ∀ x, g.resolver.resolve? x = (Resolver.ofNodes g.nodes.values).resolve? x
  size : g.resolver.size = (Resolver.ofNodes g.nodes.values).size
  project : ∀ n ∈ g.nodes.values, g.resolver.resolve? n.name = some n.name
  package : ∀ n ∈ g.nodes.values, n.packageName ≠ "" →
    (∀ m ∈ g.nodes.values, m.name ≠ n.packageName) →
      g.resolver.resolve? n.packageName = some n.name

variable (workspaceRoot : Path) (w : Workspace) (c : Config)

theorem nodup_values_buildNodes : (buildNodes workspaceRoot w c).1.nodes.values.Nodup := by
  have hroots : (buildNodes workspaceRoot w c).1.nodes.values.map Node.root =
      (buildNodes workspaceRoot w c).1.nodes.keys := by
    rw [Table.values, Table.keys, List.map_map]
    refine List.map_congr_left fun e he => ?_
    have hfind := (Table.find?_eq_some_iff _ e.1 e.2).2 he
    rw [find?_nodes_buildNodes] at hfind
    simpa using List.find?_some hfind
  refine List.Nodup.of_map Node.root ?_
  rw [hroots]
  exact Table.nodup_keys _

/-- In the order of their roots, the nodes of a graph are the kept ones. -/
theorem values_perm_keptNodes :
    (buildNodes workspaceRoot w c).1.nodes.values.Perm (keptNodes workspaceRoot w c) := by
  have hkept : (keptNodes workspaceRoot w c).Nodup :=
    List.Nodup.of_map Node.root (First.nodup_firsts _)
  rw [List.perm_ext_iff_of_nodup (nodup_values_buildNodes workspaceRoot w c) hkept]
  exact fun n => mem_values_buildNodes

/-- The resolver that was filled in the order of the packages is the one that is made of the
nodes in the order of their roots. -/
theorem resolver_eq_ofNodes_values :
    (buildNodes workspaceRoot w c).1.resolver =
      .ofNodes (buildNodes workspaceRoot w c).1.nodes.values := by
  have hcrates : ∀ n ∈ keptNodes workspaceRoot w c, ∀ m ∈ keptNodes workspaceRoot w c,
      n.packageName = m.packageName → n.name = m.name := by
    intro n hn m hm hcrate
    exact name_eq_of_packageName_eq (First.mem_of_mem_firsts hn) (First.mem_of_mem_firsts hm) hcrate
  rw [resolver_buildNodes]
  exact Resolver.ofNodes_perm (values_perm_keptNodes workspaceRoot w c).symm hcrates

/-- The resolver of a graph is that of its nodes. -/
theorem carriesResolver_buildNodes :
    (buildNodes workspaceRoot w c).1.CarriesResolver where
  resolved x := by rw [resolver_eq_ofNodes_values]
  size := by rw [resolver_eq_ofNodes_values]
  project n hn := by
    rw [resolver_eq_ofNodes_values]
    exact Resolver.resolve?_of_project ⟨n, hn, rfl⟩
  package _ hn hne hfree := resolve?_packageName_of_unclaimed hn hne hfree

end CrateGraph
