import CrateGraph.Config.Consistency
import CrateGraph.Proofs.Success
import CrateGraph.Proofs.Table

/-!
# What a consistent configuration promises

Each check of a configuration is a loop that stops at the first fault. The lemmas here say
what every one of them has established when none stopped.

## Main results

* `checkNames_ok_iff`, `checkOwners_ok_iff` — the two loops over the names of projects.
* `Config.names_of_validate`, `Config.triggers_of_validate`, `Config.globs_of_validate` — what
  the checks promise about a configuration that was accepted.
* `Naming.projectName_eq_iff` — the one way in which two crates can still come to one
  project name.
-/

namespace CrateGraph

namespace Naming

variable (n : Naming)

theorem checkNames_ok_iff (l : List (String × String)) :
    n.checkNames l = .ok () ↔
      ∀ e ∈ l, n.isExplicit e.1 = true ∧ n.looksStructural e.2 = false := by
  induction l with
  | nil => simp [checkNames]
  | cons e rest ih =>
      rcases e with ⟨package, name⟩
      rw [List.forall_mem_cons, ← ih, checkNames]
      by_cases he : n.isExplicit package
      · by_cases hs : n.looksStructural name <;> simp [he, hs]
      · simp [he]

/-- The loop succeeds if neither an earlier owner nor two crates of the list itself share a
project name. -/
theorem checkOwners_ok_iff (owners : List (String × String)) (l : List String) :
    n.checkOwners owners l = .ok () ↔
      (∀ a ∈ l, ∀ b, owners.lookup (n.materializedName a) = some b → b = a) ∧
      ∀ a ∈ l, ∀ b ∈ l, n.materializedName a = n.materializedName b → a = b := by
  induction l generalizing owners with
  | nil => simp [checkOwners]
  | cons p rest ih =>
      -- What the rest is checked against, once `p` owns its name.
      have hrest : ∀ owners' : List (String × String),
          (∀ a ∈ rest, ∀ b, ((n.materializedName p, p) :: owners').lookup
            (n.materializedName a) = some b → b = a) ↔
          (∀ a ∈ rest, n.materializedName a = n.materializedName p → p = a) ∧
          ∀ a ∈ rest, n.materializedName a ≠ n.materializedName p →
            ∀ b, owners'.lookup (n.materializedName a) = some b → b = a := by
        intro owners'
        rw [← forall₂_and]
        refine forall₂_congr fun a _ => ?_
        by_cases h : n.materializedName a = n.materializedName p
        · simp [h]
        · have hb : (n.materializedName a == n.materializedName p) = false := by simpa using h
          simp [List.lookup_cons, hb, h]
      rw [checkOwners]
      cases hp : owners.lookup (n.materializedName p) with
      | none =>
          simp only [ih, hrest, List.forall_mem_cons]
          grind
      | some first =>
          by_cases hf : first = p
          · simp only [if_pos hf, ih, hrest, List.forall_mem_cons]
            grind
          · simp only [if_neg hf, List.forall_mem_cons, hp]
            grind

/-- The project names that look structural are those of the crates without targets. -/
theorem looksStructural_iff (project : String) :
    n.looksStructural project = true ↔ ∃ package, project = n.structuralName package := by
  rw [looksStructural, Text.hasStart, List.isPrefixOf_iff_prefix]
  constructor
  · rintro ⟨rest, h⟩
    refine ⟨String.ofList rest, String.ext ?_⟩
    simp [structuralName, h]
  · rintro ⟨package, rfl⟩
    simp [structuralName]

end Naming

namespace Config

/-- What the checks of the names promise. -/
structure NamesConsistent (n : Naming) : Prop where
  /-- No name that was given to a crate looks like that of a crate without targets. -/
  given : ∀ package name, n.names.find? package = some name →
    n.isExplicit package = true ∧ n.looksStructural name = false
  /-- No two crates on the allow-list have one project name. -/
  owned : ∀ a ∈ n.explicit, ∀ b ∈ n.explicit,
    n.materializedName a = n.materializedName b → a = b

theorem names_of_validate {c : Config} (h : c.validate = .ok ()) :
    c.graph.structuralPrefix ≠ "" ∧ NamesConsistent c.graph := by
  simp only [validate, Success.bind_iff] at h
  obtain ⟨_, hnamed, _, hnames, _, howners, -⟩ := h
  refine ⟨?_, ?_, ?_⟩
  · intro he
    simp [checkPrefix, he] at hnamed
  · intro package name hfind
    exact (c.graph.checkNames_ok_iff _).1 hnames (package, name)
      ((Table.find?_eq_some_iff _ _ _).1 hfind)
  · exact ((c.graph.checkOwners_ok_iff _ _).1 howners).2

/-- A configuration is accepted exactly if it passes every check. -/
theorem validate_ok_iff (c : Config) :
    c.validate = .ok () ↔
      checkPrefix c.graph = .ok () ∧ c.graph.checkNames c.graph.names.entries = .ok () ∧
        c.graph.checkOwners [] c.graph.explicit = .ok () ∧ c.checkTriggers = .ok () ∧
        checkGlobs c.globs = .ok () := by
  simp only [validate, Success.bind_iff]
  constructor
  · rintro ⟨_, hnamed, _, hnames, _, howners, _, htriggers, hglobs⟩
    exact ⟨hnamed, hnames, howners, htriggers, hglobs⟩
  · rintro ⟨hnamed, hnames, howners, htriggers, hglobs⟩
    exact ⟨(), hnamed, (), hnames, (), howners, (), htriggers, hglobs⟩

-- Left to itself, unification would read the text of the tokens character by character.
attribute [local irreducible] Glob.check in
theorem checkGlobs_cons (pattern : String) (rest : List String) :
    checkGlobs (pattern :: rest) =
      match Glob.check (Glob.stripTokens pattern) with
      | .ok () => checkGlobs rest
      | .error e => .error (.invalidGlob pattern e) :=
  rfl

theorem checkGlobs_ok_iff (l : List String) :
    checkGlobs l = .ok () ↔ ∀ pattern ∈ l, Glob.Valid pattern := by
  induction l with
  | nil => exact ⟨fun _ _ h => (List.not_mem_nil h).elim, fun _ => rfl⟩
  | cons pattern rest ih =>
      rw [List.forall_mem_cons, ← ih, checkGlobs_cons, Glob.Valid]
      cases Glob.check (Glob.stripTokens pattern) <;> simp

theorem mem_globs_iff (c : Config) (pattern : String) :
    pattern ∈ c.globs ↔
      pattern ∈ c.sources.included ∨ pattern ∈ c.sources.excluded ∨
        pattern ∈ c.sources.manifests ∨ pattern ∈ c.targets.outputs ∨
          ∃ t, c.triggers = some t ∧ (pattern = t.bindingDir ∨ pattern ∈ t.consumerInputs) := by
  cases ht : c.triggers <;> simp [globs, ht]

/-- Every pattern of an accepted configuration is one. -/
theorem globs_of_validate {c : Config} (h : c.validate = .ok ()) :
    ∀ pattern ∈ c.globs, Glob.Valid pattern := by
  obtain ⟨-, -, -, -, hglobs⟩ := (validate_ok_iff c).1 h
  exact (checkGlobs_ok_iff c.globs).1 hglobs

/-- What the checks of the triggers promise. -/
structure TriggersConsistent (n : Naming) (t : Triggers) : Prop where
  listed : n.isExplicit t.nativeCrate = true
  /-- Neither project is that of a crate. -/
  bindingFree : n.isTaken t.bindingProject = false
  consumerFree : n.isTaken t.consumerProject = false
  apart : t.bindingProject ≠ t.consumerProject

theorem triggersCheck_ok_iff (n : Naming) (t : Triggers) :
    t.check n = .ok () ↔ TriggersConsistent n t := by
  have hparts : TriggersConsistent n t ↔ n.isExplicit t.nativeCrate = true ∧
      n.isTaken t.bindingProject = false ∧ n.isTaken t.consumerProject = false ∧
      t.bindingProject ≠ t.consumerProject :=
    ⟨fun h => ⟨h.listed, h.bindingFree, h.consumerFree, h.apart⟩,
      fun ⟨h₁, h₂, h₃, h₄⟩ => ⟨h₁, h₂, h₃, h₄⟩⟩
  rw [hparts, Triggers.check]
  cases n.isExplicit t.nativeCrate <;> cases n.isTaken t.bindingProject <;>
    cases n.isTaken t.consumerProject <;> simp

theorem triggers_of_validate {c : Config} {t : Triggers} (h : c.validate = .ok ())
    (ht : c.triggers = some t) : TriggersConsistent c.graph t := by
  obtain ⟨-, -, -, htriggers, -⟩ := (validate_ok_iff c).1 h
  rw [checkTriggers, ht] at htriggers
  exact (triggersCheck_ok_iff c.graph t).1 htriggers

/-- Nothing but its names can be wrong with a configuration that has the default patterns
and no triggers. -/
theorem validate_of_naming {n : Naming} (hnamed : n.structuralPrefix ≠ "")
    (hnames : n.checkNames n.names.entries = .ok ())
    (howners : n.checkOwners [] n.explicit = .ok ()) :
    { Config.default with graph := n }.validate = .ok () := by
  have hglobs : checkGlobs Config.default.globs = .ok () := by decide +kernel
  have hpatterns : { Config.default with graph := n }.globs = Config.default.globs := rfl
  simp only [validate, checkPrefix, if_neg hnamed, hnames, howners, hpatterns, hglobs]
  rfl

end Config

/-! ## The project name of a crate -/

namespace Naming

variable (n : Naming)

/-- The project name of a crate, on the allow-list or not. -/
def projectName (package : String) : String :=
  if n.isExplicit package then n.materializedName package else n.structuralName package

/-- A crate on the allow-list keeps its own name, and that is the name of the project of
another crate, which is not on the list. -/
structure Captures (package other : String) : Prop where
  explicit : n.isExplicit package = true
  kept : n.names.find? package = none
  unlisted : n.isExplicit other = false
  structural : package = n.structuralName other

variable {n} {a b : String}

theorem isExplicit_iff : n.isExplicit a = true ↔ a ∈ n.explicit := by
  simp [isExplicit]

theorem structuralName_inj (h : n.structuralName a = n.structuralName b) : a = b := by
  have hl := congrArg String.toList h
  simp only [structuralName, String.toList_append, List.append_cancel_left_eq] at hl
  exact String.ext hl

theorem Captures.ne (h : n.Captures a b) : a ≠ b := by
  rintro rfl
  have hlisted := h.unlisted
  rw [h.explicit] at hlisted
  cases hlisted

theorem Captures.projectName_eq (h : n.Captures a b) : n.projectName a = n.projectName b := by
  rw [projectName, projectName, if_pos h.explicit, h.unlisted, materializedName, h.kept]
  exact h.structural

/-- A project name that is not taken is that of no crate. -/
theorem projectName_ne_of_free {project : String} (h : n.isTaken project = false)
    (package : String) : n.projectName package ≠ project := by
  simp only [isTaken, Bool.or_eq_false_iff, List.any_eq_false, decide_eq_true_eq] at h
  obtain ⟨howned, hstructural⟩ := h
  rintro rfl
  unfold projectName at howned hstructural
  cases hp : n.isExplicit package with
  | true =>
      simp only [hp, if_true] at howned
      exact howned package (isExplicit_iff.1 hp) rfl
  | false =>
      simp only [hp, Bool.false_eq_true, if_false] at hstructural
      rw [(n.looksStructural_iff _).2 ⟨package, rfl⟩] at hstructural
      cases hstructural

/-- A crate with targets shares its project name with one without only by keeping its own. -/
private theorem captures_of_materialized_eq (hn : Config.NamesConsistent n)
    (ha : n.isExplicit a = true) (hb : n.isExplicit b = false)
    (h : n.materializedName a = n.structuralName b) : n.Captures a b := by
  cases hfind : n.names.find? a with
  | none => exact ⟨ha, hfind, hb, by simpa [materializedName, hfind] using h⟩
  | some name =>
      have hname : name = n.structuralName b := by simpa [materializedName, hfind] using h
      have hfalse := (hn.given a name hfind).2
      rw [(n.looksStructural_iff name).2 ⟨b, hname⟩] at hfalse
      cases hfalse

/-- With consistent names, two crates have one project name exactly if one captures that of
the other. -/
theorem projectName_eq_iff (hn : Config.NamesConsistent n) (hne : a ≠ b) :
    n.projectName a = n.projectName b ↔ n.Captures a b ∨ n.Captures b a := by
  refine ⟨fun h => ?_, ?_⟩
  · unfold projectName at h
    cases ha : n.isExplicit a <;> cases hb : n.isExplicit b <;>
      simp only [ha, hb, if_true, Bool.false_eq_true, if_false] at h
    · exact absurd (structuralName_inj h) hne
    · exact .inr (captures_of_materialized_eq hn hb ha h.symm)
    · exact .inl (captures_of_materialized_eq hn ha hb h)
    · exact absurd (hn.owned a (isExplicit_iff.1 ha) b (isExplicit_iff.1 hb) h) hne
  · rintro (h | h)
    · exact h.projectName_eq
    · exact h.projectName_eq.symm

end Naming

end CrateGraph
