import CrateGraph.Proofs.Config.Acceptance

/-!
# The first fault of a configuration

Of all that is wrong with a configuration one fault is reported. The checks are made in groups,
and a later group is not begun while an earlier one finds a fault, so the report is about the
first group that does. Within the group it is the first fault as well, and what counts as first
is said here for each group by itself: names are looked at in the order of their crates, the
allow-list and the patterns in the order in which they are written.

The loop over the allow-list is the only one that remembers something. What its record holds,
as long as nothing was reported, is the one crate with each project name.

## Main results

* `checkNames_error_iff`, `checkOwners_error_iff`, `triggersCheck_error_iff`,
  `checkGlobs_error_iff` — what each group reports.
* `run_ok_iff`, `run_error_iff` — what each group finds, without mention of loops.
* `accepted_iff_passes` — what is accepted passes all groups.
* `refused_iff_firstFault` — what is reported of a configuration is its first fault.
-/

namespace CrateGraph

/-- The groups of checks. -/
inductive CheckGroup where
  | structuralPrefix
  | names
  | owners
  | triggers
  | globs
deriving DecidableEq, Repr

/-- The groups in the order in which their checks are made. -/
def CheckGroup.inOrder : List CheckGroup := [.structuralPrefix, .names, .owners, .triggers, .globs]

/-- The group that finds a fault. -/
def ConfigError.group : ConfigError → CheckGroup
  | .emptyPrefix => .structuralPrefix
  | .unknownOverride .. | .prefixedOverride .. => .names
  | .duplicateName .. => .owners
  | .triggerNotExplicit .. | .projectCollision .. => .triggers
  | .invalidGlob .. => .globs

namespace Naming

variable (n : Naming)

/-- Whether a name may not be given to a crate. -/
def Misnames (package name : String) : Prop :=
  package ∉ n.explicit ∨ n.structuralPrefix.toList <+: name.toList

/-- Whether a crate was given a name that it may not be given. -/
def Misnamed (package : String) : Prop :=
  ∃ name, n.names.find? package = some name ∧ n.Misnames package name

/-- Whether a project is that of a crate with targets, or looks like that of one without. -/
def Taken (project : String) : Prop :=
  (∃ package ∈ n.explicit, n.materializedName package = project) ∨
    n.structuralPrefix.toList <+: project.toList

end Naming

namespace Config

variable (c : Config)

/-- Whether a group of checks finds no fault. -/
def Passes : CheckGroup → Prop
  | .structuralPrefix => c.graph.structuralPrefix ≠ ""
  | .names => ∀ package, ¬c.graph.Misnamed package
  | .owners => Set.InjOn c.graph.materializedName { package | package ∈ c.graph.explicit }
  | .triggers => ∀ t, c.triggers = some t → t.Fits c.graph
  | .globs => ∀ pattern ∈ c.globs, Glob.Valid pattern

/-- The faults of a configuration that are the first of their group. -/
inductive Breaks : ConfigError → Prop
  | emptyPrefix (h : c.graph.structuralPrefix = "") : Breaks .emptyPrefix
  /-- Of the crates with a name that they may not have, the one that sorts first is not on the
  allow-list. -/
  | unknownOverride {package : String} (first : IsLeast { p | c.graph.Misnamed p } package)
      (unlisted : package ∉ c.graph.explicit) : Breaks (.unknownOverride package)
  /-- It is on the allow-list, and its name looks structural. -/
  | prefixedOverride {package name : String}
      (first : IsLeast { p | c.graph.Misnamed p } package) (listed : package ∈ c.graph.explicit)
      (named : c.graph.names.find? package = some name)
      (looks : c.graph.structuralPrefix.toList <+: name.toList) :
      Breaks (.prefixedOverride package name c.graph.structuralPrefix)
  /-- A crate has the project name of an earlier one, and is the first that has. -/
  | duplicateName {before after : List String} {first second : String}
      (list : c.graph.explicit = before ++ second :: after) (earlier : first ∈ before)
      (different : first ≠ second)
      (same : c.graph.materializedName first = c.graph.materializedName second)
      (distinct : Set.InjOn c.graph.materializedName { package | package ∈ before }) :
      Breaks (.duplicateName (c.graph.materializedName second) first second)
  | triggerNotExplicit {t : Triggers} (set : c.triggers = some t)
      (unlisted : t.nativeCrate ∉ c.graph.explicit) : Breaks (.triggerNotExplicit t.nativeCrate)
  | bindingCollision {t : Triggers} (set : c.triggers = some t)
      (listed : t.nativeCrate ∈ c.graph.explicit) (taken : c.graph.Taken t.bindingProject) :
      Breaks (.projectCollision t.bindingProject)
  | consumerCollision {t : Triggers} (set : c.triggers = some t)
      (listed : t.nativeCrate ∈ c.graph.explicit) (free : ¬c.graph.Taken t.bindingProject)
      (taken : c.graph.Taken t.consumerProject) : Breaks (.projectCollision t.consumerProject)
  | oneProject {t : Triggers} (set : c.triggers = some t)
      (listed : t.nativeCrate ∈ c.graph.explicit) (free : ¬c.graph.Taken t.bindingProject)
      (same : t.bindingProject = t.consumerProject) : Breaks (.projectCollision t.consumerProject)
  | invalidGlob {before after : List String} {pattern : String} {e : Glob.Error}
      (list : c.globs = before ++ pattern :: after) (valid : ∀ p ∈ before, Glob.Valid p)
      (invalid : Glob.check (Glob.stripTokens pattern) = .error e) :
      Breaks (.invalidGlob pattern e)

/-- What is wrong with a configuration in the first group that finds a fault, and first in
that group. -/
structure FirstFault (e : ConfigError) : Prop where
  earlier : ∃ before after, CheckGroup.inOrder = before ++ e.group :: after ∧
    ∀ g ∈ before, c.Passes g
  violated : ¬c.Passes e.group
  first : c.Breaks e

end Config

/-! ## Names -/

namespace Naming

variable (n : Naming)

theorem not_misnames_iff (package name : String) :
    ¬n.Misnames package name ↔ n.isExplicit package = true ∧ n.looksStructural name = false := by
  rw [Misnames, not_or, not_not, isExplicit_iff, looksStructural_eq_false_iff]

/-- Every name is checked by itself. -/
theorem checkNames_eq_forM (l : List (String × String)) :
    n.checkNames l = forM l fun e => n.checkNames [e] := by
  induction l with
  | nil => rfl
  | cons e l ih =>
      rcases e with ⟨package, name⟩
      rw [List.forM_cons, ← ih]
      simp only [checkNames]
      split
      · rfl
      · split
        · rfl
        · rfl

/-- One name is refused because of its crate, or because of how it looks. -/
theorem checkNames_singleton_error_iff (package name : String) (e : ConfigError) :
    n.checkNames [(package, name)] = .error e ↔
      (package ∉ n.explicit ∧ e = .unknownOverride package) ∨
        (package ∈ n.explicit ∧ n.structuralPrefix.toList <+: name.toList ∧
          e = .prefixedOverride package name n.structuralPrefix) := by
  rw [← isExplicit_iff, ← looksStructural_eq_true_iff, checkNames]
  cases n.isExplicit package <;> cases n.looksStructural name <;> simp [checkNames, eq_comm]

/-- The loop over the names reports the first name in the table that is refused. -/
theorem checkNames_error_iff (e : ConfigError) :
    n.checkNames n.names.entries = .error e ↔ ∃ package name,
      IsLeast { p | n.Misnamed p } package ∧ n.names.find? package = some name ∧
        n.checkNames [(package, name)] = .error e := by
  have hfine : ∀ x : String × String, n.checkNames [x] = .ok () ↔ ¬n.Misnames x.1 x.2 := by
    intro x
    rw [n.checkNames_ok_iff, List.forall_mem_singleton, not_misnames_iff]
  have hrefused : ∀ {package name : String}, n.checkNames [(package, name)] = .error e →
      n.Misnames package name := by
    intro package name h
    by_contra hm
    rw [(hfine (package, name)).2 hm] at h
    cases h
  rw [checkNames_eq_forM, Success.forM_error_iff]
  simp only [hfine]
  constructor
  · rintro ⟨before, ⟨package, name⟩, after, hentries, hbefore, he⟩
    obtain ⟨hfind, -, hleast⟩ := (Table.exists_first_iff n.names n.Misnames package name).1
      ⟨before, after, hentries, hbefore, hrefused he⟩
    exact ⟨package, name, hleast, hfind, he⟩
  · rintro ⟨package, name, hleast, hfind, he⟩
    obtain ⟨before, after, hentries, hbefore, -⟩ :=
      (Table.exists_first_iff n.names n.Misnames package name).2 ⟨hfind, hrefused he, hleast⟩
    exact ⟨before, (package, name), after, hentries, hbefore, he⟩

/-! ## The allow-list -/

/-- Whether a record holds the crates that were looked at by their project names, and no two of
them share one. -/
def Owns (before : List String) (owners : List (String × String)) : Prop :=
  ∀ name package, owners.lookup name = some package ↔
    package ∈ before ∧ n.materializedName package = name

variable {n} {before l : List String} {owners : List (String × String)} {package : String}

theorem Owns.injOn (h : n.Owns before owners) :
    Set.InjOn n.materializedName { package | package ∈ before } := by
  intro a ha b hb hab
  have hfirst := (h (n.materializedName b) a).2 ⟨ha, hab⟩
  have hsecond := (h (n.materializedName b) b).2 ⟨hb, rfl⟩
  exact Option.some.inj (hfirst.symm.trans hsecond)

/-- Looking at one more crate, whose project name is that of no other, keeps the record. -/
theorem Owns.cons (h : n.Owns before owners)
    (hnew : ∀ a ∈ before, n.materializedName a = n.materializedName package → a = package) :
    n.Owns (before ++ [package]) ((n.materializedName package, package) :: owners) := by
  intro name a
  rw [List.lookup_cons, List.mem_append, List.mem_singleton]
  by_cases hname : name = n.materializedName package
  · subst hname
    simp only [BEq.rfl, Option.some.injEq]
    constructor
    · rintro rfl
      exact ⟨.inr rfl, rfl⟩
    · rintro ⟨ha | ha, hsame⟩
      · exact (hnew a ha hsame).symm
      · exact ha.symm
  · have hb : (name == n.materializedName package) = false := by simpa using hname
    simp only [hb, h name a]
    constructor
    · rintro ⟨ha, hsame⟩
      exact ⟨.inl ha, hsame⟩
    · rintro ⟨ha | rfl, hsame⟩
      · exact ⟨ha, hsame⟩
      · exact absurd hsame.symm hname

variable (n) in
/-- Whether two crates are the first in a list that share a project name, if those of another
list were looked at before. The second is in the list, and the first somewhere in front of it. -/
def Clash (before l : List String) (first second : String) : Prop :=
  ∃ passed after, l = passed ++ second :: after ∧ first ∈ before ++ passed ∧ first ≠ second ∧
    n.materializedName first = n.materializedName second ∧
    Set.InjOn n.materializedName { package | package ∈ before ++ passed }

/-- A crate that shares its project name with none before it may count as looked at. -/
theorem clash_cons_iff {first second : String}
    (hnew : ∀ a ∈ before, n.materializedName a = n.materializedName package → a = package) :
    n.Clash before (package :: l) first second ↔ n.Clash (before ++ [package]) l first second := by
  constructor
  · rintro ⟨passed, after, hl, hfirst, hne, hsame, hinj⟩
    cases passed with
    | nil =>
        obtain ⟨rfl, rfl⟩ := List.cons.inj hl
        rw [List.append_nil] at hfirst
        exact absurd (hnew first hfirst hsame) hne
    | cons q passed =>
        obtain ⟨rfl, rfl⟩ := List.cons.inj hl
        rw [← List.singleton_append, ← List.append_assoc] at hfirst hinj
        exact ⟨passed, after, rfl, hfirst, hne, hsame, hinj⟩
  · rintro ⟨passed, after, rfl, hfirst, hne, hsame, hinj⟩
    rw [List.append_assoc] at hfirst hinj
    exact ⟨package :: passed, after, rfl, hfirst, hne, hsame, hinj⟩

/-- A crate that shares its project name with one before it clashes with that one. -/
theorem clash_cons_of_same {owner first second : String}
    (hdistinct : Set.InjOn n.materializedName { package | package ∈ before })
    (howner : owner ∈ before) (hne : owner ≠ package)
    (hsame : n.materializedName owner = n.materializedName package) :
    n.Clash before (package :: l) first second ↔ first = owner ∧ second = package := by
  constructor
  · rintro ⟨passed, after, hl, hfirst, -, hsame', hinj⟩
    have hmem : owner ∈ before ++ passed := List.mem_append_left _ howner
    cases passed with
    | nil =>
        obtain ⟨rfl, rfl⟩ := List.cons.inj hl
        exact ⟨hinj hfirst hmem (hsame'.trans hsame.symm), rfl⟩
    | cons q passed =>
        obtain ⟨rfl, rfl⟩ := List.cons.inj hl
        exact absurd (hinj hmem (by simp) hsame) hne
  · rintro ⟨rfl, rfl⟩
    exact ⟨[], l, rfl, by simpa using howner, hne, hsame, by simpa using hdistinct⟩

/-- What is reported is the first clash, if the record holds what was looked at. -/
private theorem checkOwners_error_iff_of_owns (h : n.Owns before owners) (e : ConfigError) :
    n.checkOwners owners l = .error e ↔ ∃ first second, n.Clash before l first second ∧
      e = .duplicateName (n.materializedName second) first second := by
  induction l generalizing before owners with
  | nil => simp [checkOwners, Clash]
  | cons p rest ih =>
      rw [checkOwners]
      cases hp : owners.lookup (n.materializedName p) with
      | none =>
          have hnew : ∀ a ∈ before, n.materializedName a = n.materializedName p → a = p := by
            intro a ha hsame
            rw [(h (n.materializedName p) a).2 ⟨ha, hsame⟩] at hp
            cases hp
          simp only [clash_cons_iff hnew]
          exact ih (h.cons hnew)
      | some owner =>
          obtain ⟨howner, hsame⟩ := (h (n.materializedName p) owner).1 hp
          by_cases hne : owner = p
          · -- The crate was looked at before. It stands in the record once more, which is no harm.
            have hnew : ∀ a ∈ before, n.materializedName a = n.materializedName p → a = p := by
              intro a ha hsame'
              exact (h.injOn ha howner (hsame'.trans hsame.symm)).trans hne
            simp only [if_pos hne, clash_cons_iff hnew]
            exact ih (h.cons hnew)
          · simp only [if_neg hne, clash_cons_of_same h.injOn howner hne hsame]
            constructor
            · intro he
              exact ⟨owner, p, ⟨rfl, rfl⟩, (Except.error.inj he).symm⟩
            · rintro ⟨first, second, ⟨rfl, rfl⟩, rfl⟩
              rfl

/-- The loop over the allow-list reports the first crate that shares its project name with an
earlier one, and that one. -/
theorem checkOwners_error_iff (n : Naming) (e : ConfigError) :
    n.checkOwners [] n.explicit = .error e ↔ ∃ first second,
      n.Clash [] n.explicit first second ∧
        e = .duplicateName (n.materializedName second) first second := by
  have hstart : n.Owns [] [] := by
    intro name package
    simp
  exact checkOwners_error_iff_of_owns hstart e

theorem isTaken_eq_true_iff (n : Naming) (project : String) :
    n.isTaken project = true ↔ n.Taken project := by
  rw [isTaken, Bool.or_eq_true, List.any_eq_true, looksStructural_eq_true_iff]
  simp only [decide_eq_true_eq]
  rfl

end Naming

namespace Config

/-! ## Triggers and patterns -/

/-- Of the triggers the crate is looked at first, and then the projects by themselves before
both together. -/
theorem triggersCheck_error_iff (n : Naming) (t : Triggers) (e : ConfigError) :
    t.check n = .error e ↔
      (t.nativeCrate ∉ n.explicit ∧ e = .triggerNotExplicit t.nativeCrate) ∨
      t.nativeCrate ∈ n.explicit ∧
        (n.Taken t.bindingProject ∧ e = .projectCollision t.bindingProject ∨
          ¬n.Taken t.bindingProject ∧
            (n.Taken t.consumerProject ∨ t.bindingProject = t.consumerProject) ∧
            e = .projectCollision t.consumerProject) := by
  rw [← Naming.isExplicit_iff, ← Naming.isTaken_eq_true_iff, ← Naming.isTaken_eq_true_iff,
    Triggers.check]
  by_cases hsame : t.bindingProject = t.consumerProject
  · rw [if_pos hsame]
    cases n.isExplicit t.nativeCrate <;> cases n.isTaken t.bindingProject <;>
      cases n.isTaken t.consumerProject <;> simp [hsame, eq_comm]
  · rw [if_neg hsame]
    cases n.isExplicit t.nativeCrate <;> cases n.isTaken t.bindingProject <;>
      cases n.isTaken t.consumerProject <;> simp [hsame, eq_comm]

theorem checkTriggers_error_iff (c : Config) (e : ConfigError) :
    c.checkTriggers = .error e ↔ ∃ t, c.triggers = some t ∧ t.check c.graph = .error e := by
  unfold checkTriggers
  cases c.triggers with
  | none => simp
  | some t => simp

-- Left to itself, unification would read the text of the tokens character by character.
attribute [local irreducible] Glob.check in
theorem checkGlobs_singleton_error_iff (pattern : String) (e : ConfigError) :
    checkGlobs [pattern] = .error e ↔
      ∃ fault, Glob.check (Glob.stripTokens pattern) = .error fault ∧
        e = .invalidGlob pattern fault := by
  have hnil : checkGlobs [] = .ok () := rfl
  rw [checkGlobs_cons]
  cases Glob.check (Glob.stripTokens pattern) with
  | ok => simp [hnil]
  | error fault => simp [eq_comm]

/-- Every pattern is checked by itself. -/
theorem checkGlobs_eq_forM (l : List String) :
    checkGlobs l = forM l fun pattern => checkGlobs [pattern] := by
  induction l with
  | nil => rfl
  | cons pattern l ih =>
      rw [List.forM_cons, ← ih, checkGlobs_cons, checkGlobs_cons]
      cases Glob.check (Glob.stripTokens pattern) <;> rfl

/-- The loop over the patterns reports the first that is none, and why. -/
theorem checkGlobs_error_iff (l : List String) (e : ConfigError) :
    checkGlobs l = .error e ↔ ∃ before pattern after fault, l = before ++ pattern :: after ∧
      (∀ p ∈ before, Glob.Valid p) ∧ Glob.check (Glob.stripTokens pattern) = .error fault ∧
        e = .invalidGlob pattern fault := by
  rw [checkGlobs_eq_forM, Success.forM_error_iff]
  simp only [checkGlobs_singleton_error_iff, checkGlobs_ok_iff, List.forall_mem_singleton]
  constructor
  · rintro ⟨before, pattern, after, hl, hvalid, fault, hfault, he⟩
    exact ⟨before, pattern, after, fault, hl, hvalid, hfault, he⟩
  · rintro ⟨before, pattern, after, fault, hl, hvalid, hfault, he⟩
    exact ⟨before, pattern, after, hl, hvalid, fault, hfault, he⟩

/-! ## Groups -/

/-- Makes the checks of one group. -/
def run (c : Config) : CheckGroup → Except ConfigError Unit
  | .structuralPrefix => checkPrefix c.graph
  | .names => c.graph.checkNames c.graph.names.entries
  | .owners => c.graph.checkOwners [] c.graph.explicit
  | .triggers => c.checkTriggers
  | .globs => checkGlobs c.globs

variable (c : Config)

theorem checkPrefix_ok_iff_passes : checkPrefix c.graph = .ok () ↔ c.Passes .structuralPrefix := by
  show checkPrefix c.graph = .ok () ↔ c.graph.structuralPrefix ≠ ""
  by_cases h : c.graph.structuralPrefix = "" <;> simp [checkPrefix, h]

theorem checkNames_ok_iff_passes :
    c.graph.checkNames c.graph.names.entries = .ok () ↔ c.Passes .names := by
  rw [Naming.checkNames_ok_iff]
  simp only [← Naming.not_misnames_iff]
  constructor
  · rintro h package ⟨name, hfind, hname⟩
    exact h (package, name) ((Table.find?_eq_some_iff _ _ _).1 hfind) hname
  · intro h e he hname
    exact h e.1 ⟨e.2, (Table.find?_eq_some_iff _ _ _).2 he, hname⟩

theorem checkOwners_ok_iff_passes :
    c.graph.checkOwners [] c.graph.explicit = .ok () ↔ c.Passes .owners := by
  rw [Naming.checkOwners_ok_iff]
  constructor
  · rintro ⟨-, howned⟩ a ha b hb hab
    exact howned a ha b hb hab
  · intro h
    refine ⟨?_, fun a ha b hb hab => h ha hb hab⟩
    intro a _ b hb
    cases hb

/-- Which configurations pass a group of checks. -/
theorem run_ok_iff (g : CheckGroup) : c.run g = .ok () ↔ c.Passes g := by
  cases g with
  | structuralPrefix => exact c.checkPrefix_ok_iff_passes
  | names => exact c.checkNames_ok_iff_passes
  | owners => exact c.checkOwners_ok_iff_passes
  | triggers => exact checkTriggers_ok_iff c
  | globs => exact checkGlobs_ok_iff c.globs

theorem checkPrefix_error_iff_breaks (e : ConfigError) :
    checkPrefix c.graph = .error e ↔ e.group = .structuralPrefix ∧ c.Breaks e := by
  rw [checkPrefix]
  constructor
  · intro h
    split at h
    · cases h
      exact ⟨rfl, .emptyPrefix ‹_›⟩
    · cases h
  · rintro ⟨hgroup, h⟩
    cases h with
    | emptyPrefix hempty => rw [if_pos hempty]
    | _ => cases hgroup

theorem checkNames_error_iff_breaks (e : ConfigError) :
    c.graph.checkNames c.graph.names.entries = .error e ↔ e.group = .names ∧ c.Breaks e := by
  rw [Naming.checkNames_error_iff]
  simp only [Naming.checkNames_singleton_error_iff]
  constructor
  · rintro ⟨package, name, hleast, hfind, ⟨hunlisted, rfl⟩ | ⟨hlisted, hlooks, rfl⟩⟩
    · exact ⟨rfl, .unknownOverride hleast hunlisted⟩
    · exact ⟨rfl, .prefixedOverride hleast hlisted hfind hlooks⟩
  · rintro ⟨hgroup, h⟩
    cases h with
    | unknownOverride hleast hunlisted =>
        obtain ⟨name, hfind, -⟩ := hleast.1
        exact ⟨_, name, hleast, hfind, .inl ⟨hunlisted, rfl⟩⟩
    | prefixedOverride hleast hlisted hfind hlooks =>
        exact ⟨_, _, hleast, hfind, .inr ⟨hlisted, hlooks, rfl⟩⟩
    | _ => cases hgroup

theorem checkOwners_error_iff_breaks (e : ConfigError) :
    c.graph.checkOwners [] c.graph.explicit = .error e ↔ e.group = .owners ∧ c.Breaks e := by
  rw [Naming.checkOwners_error_iff]
  constructor
  · rintro ⟨first, second, ⟨before, after, hlist, hfirst, hne, hsame, hdistinct⟩, rfl⟩
    exact ⟨rfl, .duplicateName hlist hfirst hne hsame hdistinct⟩
  · rintro ⟨hgroup, h⟩
    cases h with
    | duplicateName hlist hfirst hne hsame hdistinct =>
        exact ⟨_, _, ⟨_, _, hlist, hfirst, hne, hsame, hdistinct⟩, rfl⟩
    | _ => cases hgroup

theorem checkTriggers_error_iff_breaks (e : ConfigError) :
    c.checkTriggers = .error e ↔ e.group = .triggers ∧ c.Breaks e := by
  rw [checkTriggers_error_iff]
  simp only [triggersCheck_error_iff]
  constructor
  · rintro ⟨t, ht, ⟨hunlisted, rfl⟩ | ⟨hlisted, ⟨htaken, rfl⟩ | ⟨hfree, htaken | hsame, rfl⟩⟩⟩
    · exact ⟨rfl, .triggerNotExplicit ht hunlisted⟩
    · exact ⟨rfl, .bindingCollision ht hlisted htaken⟩
    · exact ⟨rfl, .consumerCollision ht hlisted hfree htaken⟩
    · exact ⟨rfl, .oneProject ht hlisted hfree hsame⟩
  · rintro ⟨hgroup, h⟩
    cases h with
    | triggerNotExplicit ht hunlisted => exact ⟨_, ht, .inl ⟨hunlisted, rfl⟩⟩
    | bindingCollision ht hlisted htaken => exact ⟨_, ht, .inr ⟨hlisted, .inl ⟨htaken, rfl⟩⟩⟩
    | consumerCollision ht hlisted hfree htaken =>
        exact ⟨_, ht, .inr ⟨hlisted, .inr ⟨hfree, .inl htaken, rfl⟩⟩⟩
    | oneProject ht hlisted hfree hsame =>
        exact ⟨_, ht, .inr ⟨hlisted, .inr ⟨hfree, .inr hsame, rfl⟩⟩⟩
    | _ => cases hgroup

theorem checkGlobs_error_iff_breaks (e : ConfigError) :
    checkGlobs c.globs = .error e ↔ e.group = .globs ∧ c.Breaks e := by
  rw [checkGlobs_error_iff]
  constructor
  · rintro ⟨before, pattern, after, fault, hlist, hvalid, hfault, rfl⟩
    exact ⟨rfl, .invalidGlob hlist hvalid hfault⟩
  · rintro ⟨hgroup, h⟩
    cases h with
    | invalidGlob hlist hvalid hfault => exact ⟨_, _, _, _, hlist, hvalid, hfault, rfl⟩
    | _ => cases hgroup

/-- What a group of checks reports is the first fault of the group. -/
theorem run_error_iff (g : CheckGroup) (e : ConfigError) :
    c.run g = .error e ↔ e.group = g ∧ c.Breaks e := by
  cases g with
  | structuralPrefix => exact c.checkPrefix_error_iff_breaks e
  | names => exact c.checkNames_error_iff_breaks e
  | owners => exact c.checkOwners_error_iff_breaks e
  | triggers => exact c.checkTriggers_error_iff_breaks e
  | globs => exact c.checkGlobs_error_iff_breaks e

/-- A configuration is checked group by group. -/
theorem validate_eq_forM : c.validate = forM CheckGroup.inOrder c.run := by
  simp only [CheckGroup.inOrder, List.forM_cons, List.forM_nil, bind_pure_unit]
  rfl

/-- A configuration is accepted exactly if it passes every group of checks. -/
theorem accepted_iff_passes : c.validate = .ok () ↔ ∀ g, c.Passes g := by
  have hall : ∀ g, g ∈ CheckGroup.inOrder := by
    intro g
    cases g <;> decide
  rw [validate_eq_forM, Success.forM_ok_iff]
  simp only [run_ok_iff]
  constructor
  · intro h g
    exact h g (hall g)
  · intro h g _
    exact h g

/-- What is reported of a configuration that is refused is its first fault. -/
theorem refused_iff_firstFault (e : ConfigError) : c.validate = .error e ↔ c.FirstFault e := by
  rw [validate_eq_forM, Success.forM_error_iff]
  simp only [run_ok_iff]
  constructor
  · rintro ⟨before, g, after, horder, hearlier, hrun⟩
    obtain ⟨rfl, hfirst⟩ := (c.run_error_iff g e).1 hrun
    refine ⟨⟨before, after, horder, hearlier⟩, ?_, hfirst⟩
    rw [← run_ok_iff, hrun]
    intro hok
    cases hok
  · rintro ⟨⟨before, after, horder, hearlier⟩, -, hfirst⟩
    exact ⟨before, e.group, after, horder, hearlier, (c.run_error_iff _ e).2 ⟨rfl, hfirst⟩⟩

/-- Of two patterns that are none the first is reported, with the place of its third wildcard. -/
example :
    { Config.default with
      sources := { Sources.default with included := ["src/**", "***", "a**"] } }.validate =
        .error (.invalidGlob "***" ⟨2, .wildcards⟩) := by
  decide +kernel

end Config

end CrateGraph
