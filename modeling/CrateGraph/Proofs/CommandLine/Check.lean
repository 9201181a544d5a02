import CrateGraph.CommandLine.Report
import CrateGraph.Proofs.Graph.Locations
import CrateGraph.Proofs.Synchronizer.Missing
import CrateGraph.Proofs.Synchronizer.Replies

/-!
# The check of a workspace

The check of a workspace passes three gates: the configuration is consistent, there are packages,
and the crates on the allow-list are among them. The second gate looks at all packages that were
reported, the third one at those inside the workspace only. Together they let through what can be
synchronized, and one thing more: a workspace with nothing on the allow-list whose packages all
come from outside of it. Of that the check says that it is fine and has no projects.

The check reads the metadata once for each gate. The metadata tool is asked only the first time,
unless the root of the workspace became another one while it ran.

## Main results

* `run_metadata_again` — a root that is still the same is not asked about again.
* `check_eq_verdict` — what the check says follows from the one answer of the tool.
* `verdict_ok_iff` — when a workspace passes.
* `checksWorkspace` — the check as a command, whatever it works with and whatever the tool answers.
* `not_synchronizable_foreign` — a workspace that passes and has no projects.
-/

namespace CrateGraph

open Metadata

/-! ## Reading metadata again -/

/-- Whether the root of a workspace is still the same after a source was asked about it. -/
def Metadata.Source.KeepsRoot {σ : Type} (source : Source σ) (root : Path) (state : σ) : Prop :=
  ((source.machine state).normalize root).Same
    ((source.machine (source.fetch ((source.machine state).normalize root) state).2).normalize root)

/-- What a source says of the workspace at a root. -/
def Metadata.Source.answer {σ : Type} (source : Source σ) (root : Path) (state : σ) :
    Except FetchError Workspace :=
  (source.fetch ((source.machine state).normalize root) state).1.1

theorem Progress.ask_source {σ : Type} (source : Source σ) (root : Path) (p : Progress σ) :
    (p.ask source root).2.source = (source.fetch root p.source).2 := by
  rw [ask_eq]

/-- What the source said of a root is known from then on. -/
theorem Progress.known?_ask_start {σ : Type} (source : Source σ) (state : σ) {root root' : Path}
    (h : root.Same root') :
    ((Progress.start state).ask source root).2.known? root' =
      some ((Progress.start state).ask source root).1 := by
  rw [ask_eq]
  have hfind : ∀ w : Workspace, [(root, w)].find? (fun k => k.1.Same root') = some (root, w) :=
    fun w => List.find?_cons_of_pos (decide_eq_true h)
  simp [start, known?, hfind]

namespace Synchronizer

variable {σ : Type} {s : Synchronizer σ} {root : Path} {state : σ}

/-- Nothing is known at the start, so the source is asked. -/
theorem run_metadata_start (s : Synchronizer σ) (root : Path) (state : σ) :
    (s.metadata root).run (.start state) =
      (Progress.start state).ask s.source ((s.source.machine state).normalize root) := by
  rw [run_metadata]
  rfl

/-- A root that is still the same is not asked about again. -/
theorem run_metadata_again (h : s.source.KeepsRoot root state) :
    (s.metadata root).run ((s.metadata root).run (.start state)).2 =
      (s.metadata root).run (.start state) := by
  rw [run_metadata_start, run_metadata, normalized, Progress.ask_source,
    Progress.known?_ask_start]
  exact h

theorem ofConfig_of_validate {c : Config} (h : c.validate = .ok ()) (source : Source σ) :
    ofConfig c source = .ok ⟨c, source, h⟩ := by
  unfold ofConfig
  split
  · rfl
  · rename_i e he
    cases h.symm.trans he

theorem ofConfig_of_validate_error {c : Config} {e : ConfigError} (h : c.validate = .error e)
    (source : Source σ) : ofConfig c source = .error e := by
  unfold ofConfig
  split
  · rename_i hok
    cases h.symm.trans hok
  · rename_i e' he
    have hsame : Except.error e = .error e' := h.symm.trans he
    rw [Except.error.inj hsame]

end Synchronizer

namespace CommandLine

/-! ## The gates -/

/-- What is printed of a workspace that passes the check. -/
def checkReport (g : ProjectGraph) : String :=
  "ok: " ++ toString g.size ++ " projects (" ++ toString g.materializedCount ++ " materialized)\n"

/-- What the check says of a workspace with packages and its graph. -/
def listedVerdict (s : Session) (w : Workspace) (g : ProjectGraph) : Answer :=
  let missing := s.config.graph.explicit.filter fun name => (w.member? name).isNone
  if missing.isEmpty then .ok (checkReport g) else .error (.missing missing s.configFile)

/-- The part of the check that comes after it has found packages. -/
def checkListed (s : Session) (y : Synchronizer Machine) : Sync Machine Answer := do
  let missing ← y.missingExplicit s.root
  if !missing.isEmpty then return .error (.missing missing s.configFile)
  let graph ← y.nodes s.root
  return .ok (checkReport graph)

section

variable {s : Session} {y : Synchronizer Machine} {p p' : Progress Machine} {w : Workspace}

theorem run_checkListed (hy : y.config = s.config) (hw : (y.metadata s.root).run p = (w, p')) :
    ((checkListed s y).run p).1 = listedVerdict s w ((y.nodes s.root).run p').1 := by
  have hrun : (checkListed s y).run p =
      (if !((y.missingExplicit s.root).run p).1.isEmpty then
        return .error (.missing ((y.missingExplicit s.root).run p).1 s.configFile)
      else do
        let graph ← y.nodes s.root
        return .ok (checkReport graph) : Sync Machine Answer).run
          ((y.missingExplicit s.root).run p).2 := rfl
  rw [hrun, Synchronizer.run_missingExplicit hw, hy, listedVerdict]
  cases (s.config.graph.explicit.filter fun name => (w.member? name).isNone).isEmpty <;> rfl

theorem run_checkWorkspace (hw : (y.metadata s.root).run p = (w, p')) :
    ((checkWorkspace s y).run p).1 =
      if w.packages.isEmpty then .error (.noPackages s.root)
      else ((checkListed s y).run p').1 := by
  have hrun : (checkWorkspace s y).run p =
      (if ((y.metadata s.root).run p).1.packages.isEmpty then return .error (.noPackages s.root)
      else checkListed s y : Sync Machine Answer).run ((y.metadata s.root).run p).2 := rfl
  rw [hrun, hw]
  cases w.packages.isEmpty <;> rfl

end

/-- What the check says of the workspace of a session, as a source describes it. -/
def check (s : Session) (source : Source Machine) (m : Machine) : Answer :=
  match Synchronizer.ofConfig s.config source with
  | .error e => .error (.inconsistent s.configFile e)
  | .ok y => ((checkWorkspace s y).run (.start m)).1

/-- What the check says if the root is a given one and the tool gives an answer. -/
def verdict (s : Session) (root : Path) (answer : Except FetchError Workspace) : Answer :=
  match s.config.validate with
  | .error e => .error (.inconsistent s.configFile e)
  | .ok () =>
    if (workspaceOf answer).packages.isEmpty then .error (.noPackages s.root)
    else listedVerdict s (workspaceOf answer) (buildNodes root (workspaceOf answer) s.config).1

/-- What the check says follows from the one answer of the tool. -/
theorem check_eq_verdict {s : Session} {source : Source Machine} {m : Machine}
    (h : source.KeepsRoot s.root m) :
    check s source m =
      verdict s ((source.machine m).normalize s.root) (source.answer s.root m) := by
  cases hvalid : s.config.validate with
  | error e => rw [check, Synchronizer.ofConfig_of_validate_error hvalid, verdict, hvalid]
  | ok u =>
      rw [check, Synchronizer.ofConfig_of_validate hvalid, verdict, hvalid]
      let y : Synchronizer Machine := ⟨s.config, source, hvalid⟩
      obtain ⟨w, p, hfirst⟩ : ∃ w p, (y.metadata s.root).run (.start m) = (w, p) := ⟨_, _, rfl⟩
      have hagain : (y.metadata s.root).run p = (w, p) := by
        have hsame := Synchronizer.run_metadata_again (s := y) h
        rwa [hfirst] at hsame
      have hasked : (w, p) =
          (Progress.start m).ask source ((source.machine m).normalize s.root) :=
        hfirst.symm.trans (y.run_metadata_start s.root m)
      have hw : w = workspaceOf (source.answer s.root m) := by
        rw [Progress.ask_eq] at hasked
        exact congrArg Prod.fst hasked
      have hroot : ((source.machine m).normalize s.root).Same (y.normalized p s.root) := by
        have hstate : p.source = _ := (congrArg (fun r => r.2.source) hasked).trans
          (Progress.ask_source source _ _)
        rw [Synchronizer.normalized, hstate]
        exact h
      show ((checkWorkspace s y).run (.start m)).1 = _
      rw [run_checkWorkspace hfirst, run_checkListed rfl hagain, Synchronizer.run_nodes hagain,
        ← buildNodes_congr hroot, hw]

/-! ## Workspaces that pass -/

/-- Whether the answer of the metadata tool describes a workspace that can be synchronized under a
configuration: there is something in it, and all that gets targets is. -/
def Synchronizable (c : Config) (answer : Except FetchError Workspace) : Prop :=
  c.validate = .ok () ∧ ∃ w, answer = .ok w ∧ w.members ≠ [] ∧
    ∀ name ∈ c.graph.explicit, name ∈ w.members.map Package.name

/-- Whether an answer describes packages that all come from outside of the workspace. -/
def OnlyForeign (answer : Except FetchError Workspace) : Prop :=
  ∃ w, answer = .ok w ∧ w.packages ≠ [] ∧ w.members = []

theorem members_of_packages_eq_nil {w : Workspace} (h : w.packages = []) : w.members = [] := by
  rw [Workspace.members, h, List.filter_nil]

/-- A graph is without projects exactly if there is no package inside the workspace. -/
theorem size_buildNodes_eq_zero_iff (root : Path) (w : Workspace) (c : Config) :
    (buildNodes root w c).1.size = 0 ↔ w.members = [] := by
  have hkeys : (buildNodes root w c).1.size = (buildNodes root w c).1.nodes.keys.length :=
    (List.length_map _).symm
  rw [hkeys, List.length_eq_zero_iff, List.eq_nil_iff_forall_not_mem,
    List.eq_nil_iff_forall_not_mem]
  simp only [mem_keys_buildNodes_iff]
  constructor
  · intro hnone p hp
    exact hnone (rootOf root p) ⟨p, hp, rfl⟩
  · rintro hnone key ⟨p, hp, -⟩
    exact hnone p hp

theorem listedVerdict_ok_iff (s : Session) (w : Workspace) (g : ProjectGraph) (text : String) :
    listedVerdict s w g = .ok text ↔
      (∀ name ∈ s.config.graph.explicit, name ∈ w.members.map Package.name) ∧
        text = checkReport g := by
  have hmissing : (s.config.graph.explicit.filter fun name => (w.member? name).isNone) = [] ↔
      ∀ name ∈ s.config.graph.explicit, name ∈ w.members.map Package.name := by
    rw [List.filter_eq_nil_iff]
    refine forall₂_congr fun name _ => ?_
    rw [Option.isNone_iff_eq_none, w.member?_eq_none_iff, not_not]
  rw [listedVerdict, ← hmissing]
  cases s.config.graph.explicit.filter fun name => (w.member? name).isNone with
  | nil => simp [eq_comm]
  | cons name names => simp

theorem verdict_of_validate {s : Session} (h : s.config.validate = .ok ()) (root : Path)
    (answer : Except FetchError Workspace) :
    verdict s root answer =
      if (workspaceOf answer).packages.isEmpty then .error (.noPackages s.root)
      else listedVerdict s (workspaceOf answer)
        (buildNodes root (workspaceOf answer) s.config).1 := by
  rw [verdict, h]

/-- A workspace passes exactly if the configuration is consistent, packages were reported, and
those on the allow-list are in the workspace. -/
theorem verdict_ok_iff (s : Session) (root : Path) (answer : Except FetchError Workspace)
    (text : String) :
    verdict s root answer = .ok text ↔ s.config.validate = .ok () ∧ ∃ w, answer = .ok w ∧
      w.packages ≠ [] ∧ (∀ name ∈ s.config.graph.explicit, name ∈ w.members.map Package.name) ∧
        text = checkReport (buildNodes root w s.config).1 := by
  cases hvalid : s.config.validate with
  | error e => simp [verdict, hvalid]
  | ok u =>
      rw [verdict_of_validate hvalid]
      cases answer with
      | error e => simp [workspaceOf, Workspace.empty]
      | ok w =>
          cases hpackages : w.packages with
          | nil => simp [workspaceOf, hpackages]
          | cons q l => simp [workspaceOf, hpackages, listedVerdict_ok_iff]

/-- What passes can be synchronized, or it has nothing in it and nothing is asked of it. -/
theorem exists_verdict_ok_iff (s : Session) (root : Path) (answer : Except FetchError Workspace) :
    (∃ text, verdict s root answer = .ok text) ↔ Synchronizable s.config answer ∨
      (s.config.validate = .ok () ∧ s.config.graph.explicit = [] ∧ OnlyForeign answer) := by
  simp only [verdict_ok_iff]
  constructor
  · rintro ⟨text, hvalid, w, rfl, hpackages, hlisted, -⟩
    by_cases hmembers : w.members = []
    · refine .inr ⟨hvalid, ?_, w, rfl, hpackages, hmembers⟩
      rw [List.eq_nil_iff_forall_not_mem]
      intro name hname
      simpa [hmembers] using hlisted name hname
    · exact .inl ⟨hvalid, w, rfl, hmembers, hlisted⟩
  · rintro (⟨hvalid, w, rfl, hmembers, hlisted⟩ | ⟨hvalid, hnothing, w, rfl, hpackages, -⟩)
    · have hpackages : w.packages ≠ [] := fun h => hmembers (members_of_packages_eq_nil h)
      exact ⟨_, hvalid, w, rfl, hpackages, hlisted, rfl⟩
    · exact ⟨_, hvalid, w, rfl, hpackages, by simp [hnothing], rfl⟩

/-- Packages from outside of the workspace matter only if there would be none without them. -/
theorem verdict_eq_iff_of_members {s : Session} (hvalid : s.config.validate = .ok ())
    (root : Path) {w w' : Workspace} (h : w.members = w'.members) :
    verdict s root (.ok w) = verdict s root (.ok w') ↔ (w.packages = [] ↔ w'.packages = []) := by
  have hgraph : buildNodes root w s.config = buildNodes root w' s.config := by
    rw [buildNodes, buildNodes, h]
  have hmember : w.member? = w'.member? := by
    funext name
    rw [Workspace.member?, Workspace.member?, h]
  have hlisted : listedVerdict s w (buildNodes root w s.config).1 =
      listedVerdict s w' (buildNodes root w' s.config).1 := by
    rw [listedVerdict, listedVerdict, hgraph, hmember]
  have hother : ∀ v g, listedVerdict s v g ≠ .error (.noPackages s.root) := by
    intro v g
    rw [listedVerdict]
    split <;> simp
  rw [verdict_of_validate hvalid, verdict_of_validate hvalid]
  simp only [workspaceOf, List.isEmpty_iff, hlisted]
  by_cases hw : w.packages = [] <;> by_cases hw' : w'.packages = [] <;>
    simp [hw, hw', hother, Ne.symm (hother _ _)]

/-! ## The command -/

/-- The command `check` does what the check says with the metadata tool as the source. -/
theorem execute_check {m : Machine} {o : Options} {s : Session} {events : List Event}
    (hcheck : o.command = .check) (h : Session.ofOptions m o = (.ok s, events)) :
    (execute m o).1 = check s (Tool.ofSettings s.config.metadata).source m := by
  rw [execute, h, check]
  simp only [Session.synchronizer, hcheck]
  cases Synchronizer.ofConfig s.config (Tool.ofSettings s.config.metadata).source <;> rfl

theorem runOptions_check {m : Machine} {o : Options} (hcheck : o.command = .check) :
    ((runOptions m o).code = 0 ↔ ∃ text, (execute m o).1 = .ok text) ∧
      ∀ text, (execute m o).1 = .ok text → (runOptions m o).out = text := by
  rw [runOptions, hcheck]
  rcases execute m o with ⟨answer, events, m'⟩
  cases answer <;> simp

/-- The check of a workspace reads the metadata twice before it makes the graph. -/
theorem check_ok_iff {s : Session} {source : Source Machine} {m : Machine}
    {y : Synchronizer Machine} (hconfig : y.config = s.config) (hsource : y.source = source)
    {first second : Workspace} {p p' : Progress Machine}
    (hfirst : (y.metadata s.root).run (.start m) = (first, p))
    (hsecond : (y.metadata s.root).run p = (second, p')) :
    (∃ text, check s source m = .ok text) ↔ first.packages ≠ [] ∧
      ∀ name ∈ s.config.graph.explicit, name ∈ second.members.map Package.name := by
  rcases y with ⟨config, ysource, hvalid⟩
  subst hconfig hsource
  rw [check, Synchronizer.ofConfig_of_validate hvalid]
  simp only [run_checkWorkspace hfirst, run_checkListed rfl hsecond]
  cases first.packages with
  | nil => simp
  | cons q l => simp [listedVerdict_ok_iff]

/-- What the check of a workspace means, for a session and a source that may do anything to the
machine it is on. -/
structure ChecksWorkspace (s : Session) (source : Source Machine) (m : Machine) : Prop where
  /-- The command is the check with the metadata tool as the source, and tells by its status
  whether the workspace passed. -/
  command (o : Options) (events : List Event) : o.command = .check →
    Session.ofOptions m o = (.ok s, events) →
    source = (Tool.ofSettings s.config.metadata).source →
      (execute m o).1 = check s source m ∧
      ((runOptions m o).code = 0 ↔ ∃ text, check s source m = .ok text) ∧
      ∀ text, check s source m = .ok text → (runOptions m o).out = text
  refused (e : ConfigError) : s.config.validate = .error e →
    check s source m = .error (.inconsistent s.configFile e)
  /-- If the root becomes another one while the source works, the source is asked again, and each
  gate looks at what it says then. -/
  readings (y : Synchronizer Machine) (first second : Workspace) (p p' : Progress Machine) :
    y.config = s.config → y.source = source →
    (y.metadata s.root).run (.start m) = (first, p) → (y.metadata s.root).run p = (second, p') →
      ((∃ text, check s source m = .ok text) ↔ first.packages ≠ [] ∧
        ∀ name ∈ s.config.graph.explicit, name ∈ second.members.map Package.name)
  /-- Otherwise everything follows from one answer. -/
  settled : source.KeepsRoot s.root m → check s source m =
    verdict s ((source.machine m).normalize s.root) (source.answer s.root m)
  /-- What passes can be synchronized, but for one case. -/
  passes (root : Path) (answer : Except FetchError Workspace) :
    (∃ text, verdict s root answer = .ok text) ↔ Synchronizable s.config answer ∨
      (s.config.validate = .ok () ∧ s.config.graph.explicit = [] ∧ OnlyForeign answer)
  /-- In that case no projects are counted, and in no other. -/
  report (root : Path) (answer : Except FetchError Workspace) (text : String) :
    verdict s root answer = .ok text → ∃ w g, answer = .ok w ∧
      (buildNodes root w s.config).1 = g ∧ text = checkReport g ∧ (g.size = 0 ↔ OnlyForeign answer)
  /-- Packages from outside of the workspace matter only if there would be none without them. -/
  outside (root : Path) (w w' : Workspace) : s.config.validate = .ok () →
    w.members = w'.members →
      (verdict s root (.ok w) = verdict s root (.ok w') ↔ (w.packages = [] ↔ w'.packages = []))

theorem checksWorkspace (s : Session) (source : Source Machine) (m : Machine) :
    ChecksWorkspace s source m where
  command o events hcheck h hsource := by
    subst hsource
    have hexecute := execute_check hcheck h
    rw [← hexecute]
    exact ⟨rfl, runOptions_check hcheck⟩
  refused e h := by
    rw [check, Synchronizer.ofConfig_of_validate_error h]
  readings y first second p p' hconfig hsource hfirst hsecond :=
    check_ok_iff hconfig hsource hfirst hsecond
  settled := check_eq_verdict
  passes := exists_verdict_ok_iff s
  report root answer text h := by
    obtain ⟨-, w, rfl, hpackages, -, htext⟩ := (verdict_ok_iff s root answer text).1 h
    refine ⟨w, _, rfl, rfl, htext, ?_⟩
    rw [size_buildNodes_eq_zero_iff]
    constructor
    · intro hmembers
      exact ⟨w, rfl, hpackages, hmembers⟩
    · rintro ⟨w', hw', -, hmembers⟩
      rwa [Except.ok.inj hw']
  outside root _ _ hvalid h := verdict_eq_iff_of_members hvalid root h

/-! ## A workspace without projects -/

/-- A source that always describes the same workspace. -/
def fixedSource (w : Workspace) : Source Machine := ⟨"fixed", id, fun _ m => ((.ok w, []), m)⟩

/-- A session with nothing configured. -/
def plainSession : Session :=
  ⟨⟨.ofText "/ws", .ofText "/home/.trellis", none⟩, .ofText "/ws", .ofText "/ws/.trellis.toml",
    .default⟩

/-- A workspace with one package, which was fetched from a registry. -/
def foreignWorkspace : Workspace :=
  ⟨[⟨"ext", .ofText "/ws/crates/ext/Cargo.toml", [], some "registry"⟩]⟩

/-- It passes the check, and has no projects, so it cannot be synchronized. Without the package it
does not pass. -/
theorem not_synchronizable_foreign :
    (∀ m, check plainSession (fixedSource foreignWorkspace) m =
      .ok "ok: 0 projects (0 materialized)\n") ∧
    ¬Synchronizable plainSession.config (.ok foreignWorkspace) ∧
    ∀ m, check plainSession (fixedSource .empty) m = .error (.noPackages (.ofText "/ws")) := by
  have hvalid : plainSession.config.validate = .ok () := by decide +kernel
  have hkeeps : ∀ w m, (fixedSource w).KeepsRoot plainSession.root m := fun _ _ => rfl
  refine ⟨fun m => ?_, ?_, fun m => ?_⟩
  · have hreport : "ok: 0 projects (0 materialized)\n" = checkReport .empty := by decide +kernel
    rw [check_eq_verdict (hkeeps _ m), verdict_ok_iff]
    exact ⟨hvalid, foreignWorkspace, rfl, List.cons_ne_nil _ _, nofun, hreport⟩
  · rintro ⟨-, w, hw, hmembers, -⟩
    cases hw
    exact hmembers rfl
  · rw [check_eq_verdict (hkeeps _ m), verdict_of_validate hvalid]
    rfl

end CommandLine

end CrateGraph
