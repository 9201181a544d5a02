import CrateGraph.Policy.Triggers
import CrateGraph.Proofs.Graph.Classification
import CrateGraph.Proofs.Graph.Names

/-!
# The policy beside the graph

The policy is written without a look at the graph, and the orchestrator puts the two together
by the names of projects. The checks of a configuration make them fit: the binding and the
consumer are projects that no crate has, so what the policy says of them is said of nothing in
the graph, and the target that the binding waits for is that of a crate, with a node of this
name if the crate is there.

## Main results

* `targetKey_inj` — a key says which target of which project is meant.
* `find?_targetDefaults_ofConfig` — what the policy says of each key.
* `not_transGen_waitsFor` — no target waits for itself.
* `policyFitsGraph_ofConfig` — the policy fits every graph of its configuration.
-/

namespace CrateGraph

/-- Whether a policy lets one target wait for another, both given by their keys. -/
def Policy.WaitsFor (p : Policy) (key other : String) : Prop :=
  ∃ d, p.targetDefaults.find? key = some d ∧ other ∈ d.dependsOn

/-- The project of the native crate. -/
def Config.nativeProject (c : Config) (t : Triggers) : String :=
  c.graph.materializedName t.nativeCrate

/-- A policy says of the binding and the consumer what triggers ask for, and says it of nothing
in the graphs of the configuration; of the node of the native crate it knows what it should. -/
structure PolicyFitsGraph (c : Config) (t : Triggers) (p : Policy) : Prop where
  size : p.targetDefaults.size = 2
  present : ∀ project target, ':' ∉ target.toList →
    ((p.targetDefault? project target).isSome ↔
      target = Target.build ∧ (project = t.bindingProject ∨ project = t.consumerProject))
  binding : (p.targetDefault? t.bindingProject Target.build).map TargetDefault.dependsOn =
    some [targetKey (c.nativeProject t) Target.build]
  consumer : (p.targetDefault? t.consumerProject Target.build).map TargetDefault.dependsOn =
    some [targetKey t.bindingProject Target.build]
  native : p.targetDefault? (c.nativeProject t) Target.build = none
  acyclic : ∀ key, ¬Relation.TransGen p.WaitsFor key key
  apart : ∀ workspaceRoot w, ∀ n ∈ (buildNodes workspaceRoot w c).1.nodes.values,
    n.name ≠ t.bindingProject ∧ n.name ≠ t.consumerProject
  nativeNode : ∀ workspaceRoot w, ∀ n ∈ (buildNodes workspaceRoot w c).1.nodes.values,
    n.packageName = t.nativeCrate →
      n.name = c.nativeProject t ∧ n.isMaterialized = true ∧
        ∃ build d, n.targets.find? Target.build = some build ∧
          p.targetDefault? t.bindingProject Target.build = some d ∧ build.inputs = d.inputs

/-! ## Keys -/

/-- Where targets have no colon in their names, a key is read back by cutting at the last
one. -/
theorem targetKey_inj {project project' target target' : String} (h : ':' ∉ target.toList)
    (h' : ':' ∉ target'.toList) :
    targetKey project target = targetKey project' target' ↔
      project = project' ∧ target = target' := by
  have hpieces : ∀ project target : String, ':' ∉ target.toList →
      (targetKey project target).toList.splitOn ':' =
        project.toList.splitOn ':' ++ [target.toList] := by
    intro project target htarget
    have hkey : (targetKey project target).toList = project.toList ++ ':' :: target.toList := by
      simp [targetKey]
    rw [hkey, List.splitOn_append_cons_self, List.splitOn_eq_singleton htarget]
  constructor
  · intro heq
    have hcut := hpieces project target h
    rw [heq, hpieces project' target' h'] at hcut
    obtain ⟨-, hlast⟩ := List.append_inj' hcut rfl
    have htarget : target = target' := String.ext (List.head_eq_of_cons_eq hlast).symm
    subst htarget
    have hkey := congrArg String.toList heq
    simp only [targetKey, String.toList_append, List.append_cancel_right_eq] at hkey
    exact ⟨String.ext hkey, rfl⟩
  · rintro ⟨rfl, rfl⟩
    rfl

theorem targetKey_build_inj {project project' : String} :
    targetKey project Target.build = targetKey project' Target.build ↔ project = project' := by
  rw [targetKey_inj (by decide) (by decide)]
  simp

/-! ## The defaults of the policy -/

variable {c : Config} {t : Triggers}

theorem find?_targetDefaults_ofConfig (ht : c.triggers = some t) (key : String) :
    (Policy.ofConfig c).targetDefaults.find? key =
      if key = targetKey t.consumerProject Target.build then some (consumerDefault t)
      else if key = targetKey t.bindingProject Target.build then some (bindingDefault c t)
      else none := by
  simp only [Policy.ofConfig, ht, Table.find?_insert, Table.find?_empty]

theorem targetDefault?_consumer (ht : c.triggers = some t) :
    (Policy.ofConfig c).targetDefault? t.consumerProject Target.build =
      some (consumerDefault t) := by
  rw [Policy.targetDefault?, find?_targetDefaults_ofConfig ht, if_pos rfl]

theorem targetDefault?_binding (ht : c.triggers = some t)
    (hne : t.bindingProject ≠ t.consumerProject) :
    (Policy.ofConfig c).targetDefault? t.bindingProject Target.build =
      some (bindingDefault c t) := by
  have hkey : targetKey t.bindingProject Target.build ≠ targetKey t.consumerProject Target.build :=
    fun h => hne (targetKey_build_inj.1 h)
  rw [Policy.targetDefault?, find?_targetDefaults_ofConfig ht, if_neg hkey, if_pos rfl]

/-- Only the builds of the two projects have defaults. -/
theorem isSome_targetDefault?_iff (ht : c.triggers = some t) {project target : String}
    (h : ':' ∉ target.toList) :
    ((Policy.ofConfig c).targetDefault? project target).isSome ↔
      target = Target.build ∧ (project = t.bindingProject ∨ project = t.consumerProject) := by
  have hbuild : ':' ∉ Target.build.toList := by decide
  rw [Policy.targetDefault?, find?_targetDefaults_ofConfig ht]
  simp only [targetKey_inj h hbuild]
  split
  · rename_i hc
    simp [hc]
  · rename_i hc
    split
    · rename_i hb
      simp [hb]
    · rename_i hb
      simp only [Option.isSome_none, Bool.false_eq_true, false_iff]
      rintro ⟨htarget, hproject | hproject⟩
      · exact hb ⟨hproject, htarget⟩
      · exact hc ⟨hproject, htarget⟩

theorem size_targetDefaults_ofConfig (ht : c.triggers = some t)
    (hne : t.bindingProject ≠ t.consumerProject) :
    (Policy.ofConfig c).targetDefaults.size = 2 := by
  have hnew : (Table.empty.insert (targetKey t.bindingProject Target.build)
      (bindingDefault c t)).find? (targetKey t.consumerProject Target.build) = none := by
    rw [Table.find?_insert, if_neg fun h => hne (targetKey_build_inj.1 h).symm]
    rfl
  simp only [Policy.ofConfig, ht]
  rw [Table.size_insert_of_find?_none hnew, Table.size_insert_of_find?_none rfl]
  rfl

/-! ## The native crate -/

theorem nativeProject_eq_projectName (hc : Config.TriggersConsistent c.graph t) :
    c.nativeProject t = c.graph.projectName t.nativeCrate := by
  rw [Naming.projectName, if_pos hc.listed]
  rfl

theorem nativeProject_ne (hc : Config.TriggersConsistent c.graph t) :
    c.nativeProject t ≠ t.bindingProject ∧ c.nativeProject t ≠ t.consumerProject := by
  rw [nativeProject_eq_projectName hc]
  exact ⟨Naming.projectName_ne_of_free hc.bindingFree t.nativeCrate,
    Naming.projectName_ne_of_free hc.consumerFree t.nativeCrate⟩

theorem targetDefault?_native (hc : Config.TriggersConsistent c.graph t)
    (ht : c.triggers = some t) :
    (Policy.ofConfig c).targetDefault? (c.nativeProject t) Target.build = none := by
  have hbuild : ':' ∉ Target.build.toList := by decide
  obtain ⟨hbinding, hconsumer⟩ := nativeProject_ne hc
  rw [← Option.not_isSome_iff_eq_none, isSome_targetDefault?_iff ht hbuild]
  rintro ⟨-, hproject | hproject⟩
  · exact hbinding hproject
  · exact hconsumer hproject

/-! ## What waits for what -/

/-- How many targets of the policy have to be built before that of a key. -/
private def rank (t : Triggers) (key : String) : Nat :=
  if key = targetKey t.consumerProject Target.build then 2
  else if key = targetKey t.bindingProject Target.build then 1
  else 0

private theorem rank_lt_of_waitsFor (hc : Config.TriggersConsistent c.graph t)
    (ht : c.triggers = some t) {key other : String} (h : (Policy.ofConfig c).WaitsFor key other) :
    rank t other < rank t key := by
  obtain ⟨d, hd, hother⟩ := h
  obtain ⟨hbinding, hconsumer⟩ := nativeProject_ne hc
  rw [find?_targetDefaults_ofConfig ht] at hd
  unfold rank
  split at hd
  · -- The consumer waits for the binding.
    rename_i hkey
    cases hd
    obtain rfl : other = targetKey t.bindingProject Target.build := List.mem_singleton.1 hother
    simp [hkey, targetKey_build_inj, hc.apart]
  · rename_i hkey
    split at hd
    · -- The binding waits for the native crate.
      rename_i hkey'
      cases hd
      obtain rfl : other = targetKey (c.nativeProject t) Target.build :=
        List.mem_singleton.1 hother
      simp [hkey', targetKey_build_inj, hc.apart, hbinding, hconsumer]
    · cases hd

private theorem rank_lt_of_transGen (hc : Config.TriggersConsistent c.graph t)
    (ht : c.triggers = some t) {key other : String}
    (h : Relation.TransGen (Policy.ofConfig c).WaitsFor key other) : rank t other < rank t key := by
  induction h with
  | single hwaits => exact rank_lt_of_waitsFor hc ht hwaits
  | tail _ hwaits ih => exact (rank_lt_of_waitsFor hc ht hwaits).trans ih

/-- No target waits for itself, be it over others. -/
theorem not_transGen_waitsFor (hc : Config.TriggersConsistent c.graph t)
    (ht : c.triggers = some t) (key : String) :
    ¬Relation.TransGen (Policy.ofConfig c).WaitsFor key key := fun h =>
  lt_irrefl _ (rank_lt_of_transGen hc ht h)

/-! ## The graph -/

variable {workspaceRoot : Path} {w : Workspace} {n : Node}

/-- A project that no crate has is that of no node. -/
theorem name_ne_of_free {project : String} (h : c.graph.isTaken project = false)
    (hn : n ∈ (buildNodes workspaceRoot w c).1.nodes.values) : n.name ≠ project := by
  rw [name_of_mem_values hn]
  exact Naming.projectName_ne_of_free h n.packageName

/-- A crate watches what the binding watches when it is built. -/
theorem inputs_build_crateTargets (c : Config) (t : Triggers) (root : String) :
    ∃ build, (crateTargets c root).find? Target.build = some build ∧
      build.inputs = (bindingDefault c t).inputs :=
  ⟨_, find?_build_crateTargets c root, rfl⟩

/-- The node of the native crate has the targets of a crate. -/
theorem targets_of_nativeCrate (hc : Config.TriggersConsistent c.graph t)
    (hn : n ∈ (buildNodes workspaceRoot w c).1.nodes.values)
    (hcrate : n.packageName = t.nativeCrate) :
    n.isMaterialized = true ∧ n.targets = crateTargets c n.root := by
  obtain ⟨p, -, rfl⟩ := exists_package_of_mem_kept (mem_values_buildNodes.1 hn)
  rw [nodeOf_packageName] at hcrate
  rw [nodeOf_root, nodeOf, if_pos (hcrate ▸ hc.listed)]
  exact ⟨rfl, rfl⟩

theorem policyFitsGraph_ofConfig (hvalid : c.validate = .ok ()) (ht : c.triggers = some t) :
    PolicyFitsGraph c t (.ofConfig c) := by
  have hc := Config.triggers_of_validate hvalid ht
  exact {
    size := size_targetDefaults_ofConfig ht hc.apart
    present := fun project target h => isSome_targetDefault?_iff ht h
    binding := by
      rw [targetDefault?_binding ht hc.apart]
      rfl
    consumer := by
      rw [targetDefault?_consumer ht]
      rfl
    native := targetDefault?_native hc ht
    acyclic := not_transGen_waitsFor hc ht
    apart := fun _ _ n hn =>
      ⟨name_ne_of_free hc.bindingFree hn, name_ne_of_free hc.consumerFree hn⟩
    nativeNode := by
      intro workspaceRoot w n hn hcrate
      obtain ⟨hmaterialized, htargets⟩ := targets_of_nativeCrate hc hn hcrate
      obtain ⟨build, hbuild, hinputs⟩ := inputs_build_crateTargets c t n.root
      refine ⟨?_, hmaterialized, build, bindingDefault c t, htargets ▸ hbuild,
        targetDefault?_binding ht hc.apart, hinputs⟩
      rw [name_of_mem_values hn, hcrate, nativeProject_eq_projectName hc] }

/-- A native crate with a public name, the package that binds it, and one that uses that. -/
def boundTriggers : Triggers :=
  ⟨"node_binding", "@acme/binding", "@acme/core",
    Glob.workspaceRoot ++ "/crates/node_binding/**/*", Triggers.defaultConsumerInputs, none⟩

/-- A configuration with triggers. -/
def boundConfig : Config :=
  { Config.default with
    graph := ⟨"rust:", ["node_binding"],
      Table.empty.insert "node_binding" "@acme/node-binding-crate"⟩
    triggers := some boundTriggers }

/-- The native crate and one that it depends on. -/
def boundWorkspace : Workspace :=
  ⟨[⟨"core", .ofText "/ws/core/Cargo.toml", [], none⟩,
    ⟨"node_binding", .ofText "/ws/node_binding/Cargo.toml", ["core"], none⟩]⟩

theorem policyFitsGraph_bound :
    boundConfig.validate = .ok () ∧ boundConfig.triggers = some boundTriggers ∧
      PolicyFitsGraph boundConfig boundTriggers (.ofConfig boundConfig) ∧
      ∃ n ∈ (buildNodes (.ofText "/ws") boundWorkspace boundConfig).1.nodes.values,
        n.packageName = boundTriggers.nativeCrate ∧ n.name = "@acme/node-binding-crate" := by
  have hvalid : boundConfig.validate = .ok () := by decide +kernel
  have h := policyFitsGraph_ofConfig hvalid rfl
  have hnode : ∃ n ∈ (buildNodes (.ofText "/ws") boundWorkspace boundConfig).1.nodes.values,
      n.packageName = boundTriggers.nativeCrate := by
    decide +kernel
  obtain ⟨n, hn, hcrate⟩ := hnode
  have hname : boundConfig.nativeProject boundTriggers = "@acme/node-binding-crate" := by
    decide +kernel
  exact ⟨hvalid, rfl, h, n, hn, hcrate, (h.nativeNode _ _ n hn hcrate).1.trans hname⟩

end CrateGraph
