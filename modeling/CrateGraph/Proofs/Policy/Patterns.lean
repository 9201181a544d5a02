import CrateGraph.Policy.Triggers
import CrateGraph.Proofs.Config.Consistency
import CrateGraph.Proofs.Glob
import CrateGraph.Proofs.Graph.Nodes

/-!
# Patterns that are handed out

The patterns in the targets of a graph and in the policy are those of the configuration, which
are checked, and one that is fixed. Only the excluded ones are changed on their way: they are
checked as they are written and handed out with a negation in front. So every pattern that is
handed out is valid, but for the negations of excluded patterns that are negated already and
begin with a `**`.

## Main results

* `stems_of_mem_emittedPatterns` — where a pattern that is handed out comes from.
* `negate_mem_emittedPatterns` — every excluded pattern is handed out negated.
* `invalid_emittedPatterns_iff` — which of the patterns are invalid.
* `not_valid_emittedPatterns_doubled` — an accepted configuration for which one is.
-/

namespace CrateGraph

/-- The patterns in the targets of a node. -/
def Node.patterns (n : Node) : List String :=
  n.targets.values.flatMap fun t => t.inputs ++ t.outputs

/-- The patterns in a policy. -/
def Policy.patterns (p : Policy) : List String :=
  p.targetDefaults.values.flatMap TargetDefault.inputs ++ p.namedInputs.values.flatten

/-- The patterns that are handed out for a workspace, in the graph or in the policy. -/
def emittedPatterns (workspaceRoot : Path) (w : Workspace) (c : Config) : List String :=
  (buildNodes workspaceRoot w c).1.nodes.values.flatMap Node.patterns
    ++ (Policy.ofConfig c).patterns

/-- The pattern of all files of a project. -/
def ownFiles : String := Glob.projectRoot ++ "/**/*"

/-- What a pattern that is handed out can be. -/
inductive Stems (c : Config) : String → Prop
  | own : Stems c ownFiles
  | checked {pattern : String} (h : pattern ∈ c.globs) : Stems c pattern
  | negated {excluded : String} (h : excluded ∈ c.sources.excluded) :
      Stems c (Glob.negate excluded)

/-! ## Where patterns come from -/

variable {c : Config} {pattern : String}

theorem stems_of_mem_negated (h : pattern ∈ c.sources.excluded.map Glob.negate) :
    Stems c pattern := by
  obtain ⟨excluded, hexcluded, rfl⟩ := List.mem_map.1 h
  exact .negated hexcluded

theorem stems_of_mem_inputs (h : pattern ∈ ownFiles :: c.sources.nativeSources) :
    Stems c pattern := by
  rcases List.mem_cons.1 h with rfl | h
  · exact .own
  · rcases List.mem_append.1 h with h | h
    · exact .checked (by simp [Config.mem_globs_iff, h])
    · exact stems_of_mem_negated h

theorem stems_of_mem_withManifests (h : pattern ∈ c.sources.withManifests) : Stems c pattern := by
  rcases List.mem_append.1 h with h | h
  · rcases List.mem_append.1 h with h | h
    · exact .checked (by simp [Config.mem_globs_iff, h])
    · exact .checked (by simp [Config.mem_globs_iff, h])
  · exact stems_of_mem_negated h

/-- A crate has patterns for its build only. -/
theorem stems_of_mem_crateTargets {root : String} {t : Target}
    (ht : t ∈ (crateTargets c root).values) (h : pattern ∈ t.inputs ++ t.outputs) :
    Stems c pattern := by
  rcases Table.mem_values_insert ht with rfl | ht
  · simp [Target.ofExecutor] at h
  · rcases Table.mem_values_insert ht with rfl | ht
    · simp [Target.ofExecutor] at h
    · rcases Table.mem_values_insert ht with rfl | ht
      · rcases List.mem_append.1 h with h | h
        · exact stems_of_mem_inputs h
        · have houtput : pattern ∈ c.targets.outputs := h
          exact .checked (by simp [Config.mem_globs_iff, houtput])
      · cases ht

theorem stems_of_mem_patterns_nodeOf {workspaceRoot : Path} {p : Package}
    (h : pattern ∈ (nodeOf workspaceRoot c p).patterns) : Stems c pattern := by
  unfold nodeOf at h
  obtain ⟨t, ht, hpattern⟩ := List.mem_flatMap.1 h
  split at ht
  · exact stems_of_mem_crateTargets ht hpattern
  · cases ht

theorem stems_of_mem_consumerDefault {t : Triggers} (ht : c.triggers = some t)
    (h : pattern ∈ (consumerDefault t).inputs) : Stems c pattern := by
  rcases List.mem_append.1 h with h | h
  · exact .checked (by simp [Config.mem_globs_iff, ht, h])
  · exact .checked (by simp [Config.mem_globs_iff, ht, List.mem_singleton.1 h])

theorem stems_of_mem_targetDefaults {d : TargetDefault}
    (hd : d ∈ (Policy.ofConfig c).targetDefaults.values) (h : pattern ∈ d.inputs) :
    Stems c pattern := by
  cases ht : c.triggers with
  | none =>
      simp only [Policy.ofConfig, ht] at hd
      cases hd
  | some t =>
      simp only [Policy.ofConfig, ht] at hd
      rcases Table.mem_values_insert hd with rfl | hd
      · exact stems_of_mem_consumerDefault ht h
      · rcases Table.mem_values_insert hd with rfl | hd
        · exact stems_of_mem_inputs h
        · cases hd

theorem namedInputs_ofConfig (c : Config) :
    (Policy.ofConfig c).namedInputs =
      Table.empty.insert c.sources.namedInput c.sources.withManifests := by
  unfold Policy.ofConfig
  split <;> rfl

theorem stems_of_mem_patterns_ofConfig (h : pattern ∈ (Policy.ofConfig c).patterns) :
    Stems c pattern := by
  rcases List.mem_append.1 h with h | h
  · obtain ⟨d, hd, hpattern⟩ := List.mem_flatMap.1 h
    exact stems_of_mem_targetDefaults hd hpattern
  · obtain ⟨patterns, hpatterns, hpattern⟩ := List.mem_flatten.1 h
    rw [namedInputs_ofConfig] at hpatterns
    rcases Table.mem_values_insert hpatterns with rfl | hpatterns
    · exact stems_of_mem_withManifests hpattern
    · cases hpatterns

variable {workspaceRoot : Path} {w : Workspace}

/-- Nothing is handed out but the pattern of a project's own files and what the configuration
has, excluded patterns with a negation. -/
theorem stems_of_mem_emittedPatterns (h : pattern ∈ emittedPatterns workspaceRoot w c) :
    Stems c pattern := by
  rcases List.mem_append.1 h with h | h
  · obtain ⟨n, hn, hpattern⟩ := List.mem_flatMap.1 h
    obtain ⟨p, -, rfl⟩ := exists_package_of_mem_kept (mem_values_buildNodes.1 hn)
    exact stems_of_mem_patterns_nodeOf hpattern
  · exact stems_of_mem_patterns_ofConfig h

/-- The policy takes away every excluded pattern, whatever is in the graph. -/
theorem negate_mem_emittedPatterns {excluded : String} (h : excluded ∈ c.sources.excluded) :
    Glob.negate excluded ∈ emittedPatterns workspaceRoot w c := by
  have hnamed : c.sources.withManifests ∈ (Policy.ofConfig c).namedInputs.values := by
    rw [namedInputs_ofConfig, Table.mem_values_iff]
    exact ⟨c.sources.namedInput, Table.find?_insert_self _ _ _⟩
  have hpattern : Glob.negate excluded ∈ c.sources.withManifests :=
    List.mem_append_right _ (List.mem_map_of_mem h)
  exact List.mem_append_right _ (List.mem_append_right _
    (List.mem_flatten.2 ⟨_, hnamed, hpattern⟩))

/-! ## Validity -/

theorem valid_ownFiles : Glob.Valid ownFiles := by
  decide +kernel

/-- What an excluded pattern is negated to is the only thing that can be invalid. -/
theorem invalid_emitted_iff (hc : c.validate = .ok ()) (workspaceRoot : Path) (w : Workspace)
    (pattern : String) :
    pattern ∈ emittedPatterns workspaceRoot w c ∧ ¬Glob.Valid pattern ↔
      ∃ excluded ∈ c.sources.excluded,
        Glob.negatesRecursive excluded = true ∧ pattern = Glob.negate excluded := by
  have hglobs := Config.globs_of_validate hc
  have hexcluded : ∀ excluded ∈ c.sources.excluded,
      (Glob.Valid (Glob.negate excluded) ↔ Glob.negatesRecursive excluded = false) :=
    fun excluded h => Glob.valid_negate_iff (hglobs excluded (by simp [Config.mem_globs_iff, h]))
  constructor
  · rintro ⟨hmem, hinvalid⟩
    cases stems_of_mem_emittedPatterns hmem with
    | own => exact absurd valid_ownFiles hinvalid
    | checked h => exact absurd (hglobs pattern h) hinvalid
    | @negated excluded h =>
        rw [hexcluded excluded h, Bool.not_eq_false] at hinvalid
        exact ⟨excluded, h, hinvalid, rfl⟩
  · rintro ⟨excluded, h, hnegates, rfl⟩
    refine ⟨negate_mem_emittedPatterns h, ?_⟩
    simp [hexcluded excluded h, hnegates]

/-- The patterns of an accepted configuration are handed out valid, in the graph of any workspace
and in the policy, unless an excluded one is negated already and then begins with a `**`. What
such patterns are negated to is all that is invalid. -/
theorem invalid_emittedPatterns_iff (hc : c.validate = .ok ()) (workspaceRoot : Path)
    (w : Workspace) :
    ((∀ pattern ∈ emittedPatterns workspaceRoot w c, Glob.Valid pattern) ↔
        ∀ excluded ∈ c.sources.excluded, Glob.negatesRecursive excluded = false) ∧
      ∀ pattern, pattern ∈ emittedPatterns workspaceRoot w c ∧ ¬Glob.Valid pattern ↔
        ∃ excluded ∈ c.sources.excluded,
          Glob.negatesRecursive excluded = true ∧ pattern = Glob.negate excluded := by
  refine ⟨⟨fun hvalid excluded h => ?_, fun hnone pattern hmem => ?_⟩,
    invalid_emitted_iff hc workspaceRoot w⟩
  · by_contra hnegates
    rw [Bool.not_eq_false] at hnegates
    obtain ⟨hmem, hinvalid⟩ := (invalid_emitted_iff hc workspaceRoot w _).2
      ⟨excluded, h, hnegates, rfl⟩
    exact hinvalid (hvalid _ hmem)
  · by_contra hinvalid
    obtain ⟨excluded, h, hnegates, -⟩ := (invalid_emitted_iff hc workspaceRoot w pattern).1
      ⟨hmem, hinvalid⟩
    rw [hnone excluded h] at hnegates
    cases hnegates

/-- One crate with targets, and the given excluded patterns. -/
def excludingConfig (excluded : List String) : Config :=
  { Config.default with
    graph := ⟨"rust:", ["core"], .empty⟩
    sources := { Sources.default with excluded := excluded } }

/-- A workspace of one crate. -/
def coreWorkspace : Workspace := ⟨[⟨"core", .ofText "/ws/core/Cargo.toml", [], none⟩]⟩

/-- A second negation does no harm in front of a token. -/
theorem valid_emittedPatterns_kept :
    (excludingConfig ["!" ++ Glob.workspaceRoot ++ "/kept/**"]).validate = .ok () ∧
      "!!" ++ Glob.workspaceRoot ++ "/kept/**" ∈ emittedPatterns (.ofText "/ws") coreWorkspace
        (excludingConfig ["!" ++ Glob.workspaceRoot ++ "/kept/**"]) ∧
      ∀ pattern ∈ emittedPatterns (.ofText "/ws") coreWorkspace
        (excludingConfig ["!" ++ Glob.workspaceRoot ++ "/kept/**"]), Glob.Valid pattern := by
  have hc : (excludingConfig ["!" ++ Glob.workspaceRoot ++ "/kept/**"]).validate = .ok () := by
    decide +kernel
  refine ⟨hc, by decide +kernel, (invalid_emittedPatterns_iff hc _ _).1.2 ?_⟩
  decide +kernel

/-- An excluded pattern that is accepted and handed out invalid. -/
theorem not_valid_emittedPatterns_doubled :
    (excludingConfig ["!**/foo"]).validate = .ok () ∧
      "!!**/foo" ∈ emittedPatterns (.ofText "/ws") coreWorkspace (excludingConfig ["!**/foo"]) ∧
      ¬Glob.Valid "!!**/foo" := by
  decide +kernel

end CrateGraph
