import CrateGraph.Proofs.Config.Consistency

/-!
# Which configurations are accepted

The checks of a configuration are loops that stop at the first fault, and the one over the
allow-list carries a record of the names that it has met, in which a later crate takes the
place of an earlier one. What they decide together can be said without an order and without
a record: a condition on the names, one on the triggers, and one on each pattern.

## Main results

* `namesConsistent_iff` — the two loops over names, as conditions on the tables that they read.
* `isTaken_eq_false_iff` — when a project is free to be named by triggers.
* `accepted_iff_consistent` — an accepted configuration is a consistent one, and the other way
  around.
-/

namespace CrateGraph

/-- Triggers that name a crate and two projects which can be what they say. -/
structure Triggers.Fits (n : Naming) (t : Triggers) : Prop where
  native : t.nativeCrate ∈ n.explicit
  apart : t.bindingProject ≠ t.consumerProject
  /-- Neither project is that of a crate with targets. -/
  unowned : ∀ package ∈ n.explicit,
    n.materializedName package ≠ t.bindingProject ∧ n.materializedName package ≠ t.consumerProject
  /-- Neither project looks like that of a crate without targets. -/
  unprefixed : ¬n.structuralPrefix.toList <+: t.bindingProject.toList ∧
    ¬n.structuralPrefix.toList <+: t.consumerProject.toList

/-- A configuration whose allow-list, names, triggers and patterns agree. -/
structure Config.Consistent (c : Config) : Prop where
  prefixed : c.graph.structuralPrefix ≠ ""
  listed : ∀ package ∈ c.graph.names.keys, package ∈ c.graph.explicit
  unprefixed : ∀ package name, c.graph.names.find? package = some name →
    ¬c.graph.structuralPrefix.toList <+: name.toList
  /-- Different crates on the allow-list have different projects. -/
  owned : Set.InjOn c.graph.materializedName { package | package ∈ c.graph.explicit }
  triggers : ∀ t, c.triggers = some t → t.Fits c.graph
  included : ∀ pattern ∈ c.sources.included, Glob.Valid pattern
  excluded : ∀ pattern ∈ c.sources.excluded, Glob.Valid pattern
  manifests : ∀ pattern ∈ c.sources.manifests, Glob.Valid pattern
  outputs : ∀ pattern ∈ c.targets.outputs, Glob.Valid pattern
  /-- What the consumer watches is given by patterns. -/
  watched : ∀ t, c.triggers = some t →
    Glob.Valid t.bindingDir ∧ ∀ pattern ∈ t.consumerInputs, Glob.Valid pattern

/-! ## Names -/

namespace Naming

variable (n : Naming)

theorem looksStructural_eq_true_iff (project : String) :
    n.looksStructural project = true ↔ n.structuralPrefix.toList <+: project.toList := by
  rw [looksStructural, Text.hasStart, List.isPrefixOf_iff_prefix]

theorem looksStructural_eq_false_iff (project : String) :
    n.looksStructural project = false ↔ ¬n.structuralPrefix.toList <+: project.toList := by
  rw [← looksStructural_eq_true_iff, Bool.not_eq_true]

theorem isTaken_eq_false_iff (project : String) :
    n.isTaken project = false ↔ (∀ package ∈ n.explicit, n.materializedName package ≠ project) ∧
      ¬n.structuralPrefix.toList <+: project.toList := by
  rw [isTaken, Bool.or_eq_false_iff, looksStructural_eq_false_iff, List.any_eq_false]
  simp only [decide_eq_true_eq]

end Naming

namespace Config

/-- Names are consistent exactly if they are given to crates on the allow-list, do not look
like those of crates without targets, and are given to one crate each. -/
theorem namesConsistent_iff (n : Naming) :
    NamesConsistent n ↔ (∀ package ∈ n.names.keys, package ∈ n.explicit) ∧
      (∀ package name, n.names.find? package = some name →
        ¬n.structuralPrefix.toList <+: name.toList) ∧
      Set.InjOn n.materializedName { package | package ∈ n.explicit } := by
  constructor
  · intro h
    refine ⟨?_, ?_, ?_⟩
    · intro package hkey
      obtain ⟨name, hname⟩ := (Table.mem_keys_iff n.names package).1 hkey
      exact Naming.isExplicit_iff.1 (h.given package name hname).1
    · intro package name hname
      exact (n.looksStructural_eq_false_iff name).1 (h.given package name hname).2
    · intro a ha b hb hab
      exact h.owned a ha b hb hab
  · rintro ⟨hlisted, hunprefixed, howned⟩
    refine ⟨?_, fun a ha b hb hab => howned ha hb hab⟩
    intro package name hname
    have hkey : package ∈ n.names.keys := (Table.mem_keys_iff n.names package).2 ⟨name, hname⟩
    exact ⟨Naming.isExplicit_iff.2 (hlisted package hkey),
      (n.looksStructural_eq_false_iff name).2 (hunprefixed package name hname)⟩

/-- Both loops over the names succeed exactly if the names are consistent. -/
theorem checkNames_and_checkOwners_ok_iff (n : Naming) :
    (n.checkNames n.names.entries = .ok () ∧ n.checkOwners [] n.explicit = .ok ()) ↔
      NamesConsistent n := by
  have hnone : ∀ a ∈ n.explicit, ∀ b, ([] : List (String × String)).lookup
      (n.materializedName a) = some b → b = a := by
    intro a _ b hb
    cases hb
  rw [n.checkNames_ok_iff, n.checkOwners_ok_iff]
  constructor
  · rintro ⟨hgiven, -, howned⟩
    refine ⟨fun package name hname => ?_, howned⟩
    exact hgiven (package, name) ((Table.find?_eq_some_iff n.names package name).1 hname)
  · intro h
    refine ⟨fun e he => ?_, hnone, h.owned⟩
    exact h.given e.1 e.2 ((Table.find?_eq_some_iff n.names e.1 e.2).2 he)

/-! ## Triggers -/

theorem triggersConsistent_iff (n : Naming) (t : Triggers) :
    TriggersConsistent n t ↔ t.Fits n := by
  constructor
  · intro h
    obtain ⟨hbinding, hbinding'⟩ := (n.isTaken_eq_false_iff t.bindingProject).1 h.bindingFree
    obtain ⟨hconsumer, hconsumer'⟩ := (n.isTaken_eq_false_iff t.consumerProject).1 h.consumerFree
    exact ⟨Naming.isExplicit_iff.1 h.listed, h.apart,
      fun package hp => ⟨hbinding package hp, hconsumer package hp⟩, hbinding', hconsumer'⟩
  · intro h
    refine ⟨Naming.isExplicit_iff.2 h.native, ?_, ?_, h.apart⟩
    · rw [n.isTaken_eq_false_iff]
      exact ⟨fun package hp => (h.unowned package hp).1, h.unprefixed.1⟩
    · rw [n.isTaken_eq_false_iff]
      exact ⟨fun package hp => (h.unowned package hp).2, h.unprefixed.2⟩

theorem checkTriggers_ok_iff (c : Config) :
    c.checkTriggers = .ok () ↔ ∀ t, c.triggers = some t → t.Fits c.graph := by
  unfold checkTriggers
  cases c.triggers with
  | none => simp
  | some t =>
      simp only [Option.some.injEq, forall_eq', triggersCheck_ok_iff, triggersConsistent_iff]

/-! ## Patterns -/

/-- The loop over the patterns succeeds exactly if those of each field are patterns. -/
theorem checkGlobs_globs_ok_iff (c : Config) :
    checkGlobs c.globs = .ok () ↔
      (∀ pattern ∈ c.sources.included, Glob.Valid pattern) ∧
      (∀ pattern ∈ c.sources.excluded, Glob.Valid pattern) ∧
      (∀ pattern ∈ c.sources.manifests, Glob.Valid pattern) ∧
      (∀ pattern ∈ c.targets.outputs, Glob.Valid pattern) ∧
      ∀ t, c.triggers = some t →
        Glob.Valid t.bindingDir ∧ ∀ pattern ∈ t.consumerInputs, Glob.Valid pattern := by
  rw [checkGlobs_ok_iff]
  simp only [mem_globs_iff]
  constructor
  · intro h
    exact ⟨fun p hp => h p (.inl hp), fun p hp => h p (.inr (.inl hp)),
      fun p hp => h p (.inr (.inr (.inl hp))), fun p hp => h p (.inr (.inr (.inr (.inl hp)))),
      fun t ht => ⟨h _ (.inr (.inr (.inr (.inr ⟨t, ht, .inl rfl⟩)))),
        fun p hp => h p (.inr (.inr (.inr (.inr ⟨t, ht, .inr hp⟩))))⟩⟩
  · rintro ⟨hin, hex, hman, hout, hwatched⟩ p (hp | hp | hp | hp | ⟨t, ht, rfl | hp⟩)
    · exact hin p hp
    · exact hex p hp
    · exact hman p hp
    · exact hout p hp
    · exact (hwatched t ht).1
    · exact (hwatched t ht).2 p hp

/-! ## All checks together -/

/-- A configuration is accepted exactly if it is consistent. -/
theorem accepted_iff_consistent (c : Config) : c.validate = .ok () ↔ c.Consistent := by
  have hprefix : checkPrefix c.graph = .ok () ↔ c.graph.structuralPrefix ≠ "" := by
    by_cases h : c.graph.structuralPrefix = "" <;> simp [checkPrefix, h]
  have hnames := checkNames_and_checkOwners_ok_iff c.graph
  rw [namesConsistent_iff] at hnames
  rw [validate_ok_iff, hprefix, checkTriggers_ok_iff, checkGlobs_globs_ok_iff]
  constructor
  · rintro ⟨hprefixed, hchecked, howners, htriggers, hin, hex, hman, hout, hwatched⟩
    obtain ⟨hlisted, hunprefixed, howned⟩ := hnames.1 ⟨hchecked, howners⟩
    exact ⟨hprefixed, hlisted, hunprefixed, howned, htriggers, hin, hex, hman, hout, hwatched⟩
  · intro h
    obtain ⟨hchecked, howners⟩ := hnames.2 ⟨h.listed, h.unprefixed, h.owned⟩
    exact ⟨h.prefixed, hchecked, howners, h.triggers, h.included, h.excluded, h.manifests,
      h.outputs, h.watched⟩

/-- A crate that is listed twice does not clash with itself, nor do two crates whose projects
have each other's names. -/
example :
    { Config.default with
      graph := ⟨"rust:", ["a", "b", "a"], .ofList [("a", "b"), ("b", "a")]⟩ }.validate = .ok () := by
  decide +kernel

/-- Two wildcards in a row stand for directories, and three are no pattern. -/
example :
    { Config.default with
      sources := { Sources.default with included := ["src/**/*.rs"] } }.validate = .ok () ∧
    { Config.default with
      sources := { Sources.default with included := ["***"] } }.validate ≠ .ok () := by
  decide +kernel

end Config

end CrateGraph
