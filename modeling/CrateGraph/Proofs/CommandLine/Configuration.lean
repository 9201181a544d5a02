import CrateGraph.CommandLine.Report
import CrateGraph.Proofs.Config.Layers

/-!
# The configuration of a command

A command finds its configuration in one of two ways. Usually it takes the file of the workspace,
and goes on with the default if that is missing or broken; a file that is named must be one. The
two ways are written apart and look at the files in another order, but a file that can be used
comes to the same configuration in both: the settings of the user below, and then the program
that was given with the command. They differ only about a file that cannot be used.

## Main results

* `loadNamed_of_load` — a file that was named and loads.
* `ofOptions_named`, `ofOptions_refused`, `ofOptions_usual` — what a command works with.
* `execute_refused` — a command stops at a file that does not load, before it has asked the
  metadata tool anything.
* `loadedAlike` — the two ways side by side.
-/

namespace CrateGraph

/-! ## One file -/

section File

variable {m : Machine} {p : Path}

/-- A file that can be read is there. -/
theorem FileTree.pathExists_of_readText {t : FileTree} {cwd : Location} {s : String}
    (h : t.readText cwd p = .ok s) : t.pathExists cwd p = true := by
  obtain ⟨bytes, hread, -⟩ := (Success.bind_iff _ _ s).1 h
  obtain ⟨node, hstat, -⟩ := (Success.bind_iff _ _ bytes).1 hread
  obtain ⟨l, hlocate, -⟩ := (Success.bind_iff _ _ node).1 hstat
  rw [pathExists, hlocate]
  rfl

namespace Config

/-- A file that loads is there. -/
theorem pathExists_of_load {c : Config} (h : load m p = .ok c) : m.pathExists p = true := by
  obtain ⟨s, hread, -⟩ := (Success.bind_iff _ _ c).1 h
  exact FileTree.pathExists_of_readText ((Success.mapError_iff _ _ s).1 hread)

/-- Of a file that loads nothing is told. -/
theorem loadOrDefault_of_load {c : Config} (h : load m p = .ok c) :
    loadOrDefault m p = (c, []) := by
  rw [loadOrDefault, if_pos (pathExists_of_load h), h]

/-- A file that does not load is told of if it is there. -/
theorem loadOrDefault_of_load_error {e : LoadError} (h : load m p = .error e) :
    loadOrDefault m p =
      (.default, if m.pathExists p then [.loadFailed p.shown e.message] else []) := by
  rw [loadOrDefault, h]
  cases m.pathExists p <;> rfl

end Config

end File

namespace CommandLine

/-- What the choice of a program for the metadata tool makes of a configuration. -/
structure ChoosesTool (program : Path) (c chosen : Config) : Prop where
  program : chosen.metadata.program = some program
  formatVersion : chosen.metadata.formatVersion = c.metadata.formatVersion
  noDeps : chosen.metadata.noDeps = c.metadata.noDeps
  maxBuffer : chosen.metadata.maxBuffer = c.metadata.maxBuffer
  timeoutSecs : chosen.metadata.timeoutSecs = c.metadata.timeoutSecs
  graph : chosen.graph = c.graph
  sources : chosen.sources = c.sources
  targets : chosen.targets = c.targets
  triggers : chosen.triggers = c.triggers

namespace Session

/-- The configuration file of the user. -/
def userFile (m : Machine) (o : Options) : Path := (contextOf m o.workspace).userConfig

/-- The configuration file of the workspace. -/
def usualFile (m : Machine) (o : Options) : Path := ((contextOf m o.workspace).projectConfig m).1

/-- A configuration file that was named. -/
def namedFile (m : Machine) (o : Options) (named : Path) : Path :=
  (contextOf m o.workspace).cwd.join named

/-- What is told while the root of the workspace is looked for. -/
def rootEvents (m : Machine) (o : Options) : List Event :=
  ((contextOf m o.workspace).workspaceRoot m).2

end Session

open Session

/-- The two ways to find a configuration, for a command whose other options are given. -/
structure LoadedAlike (m : Machine) (o : Options) (named : Path) : Prop where
  /-- Without a named file there always is a configuration: that of the two layers. -/
  usual : ∃ s, (ofOptions m { o with config := none }).1 = .ok s ∧
    s.configFile = usualFile m o ∧
    s.config = withTool o.cargo (Config.loadLayered m (userFile m o) (usualFile m o)).1
  /-- With a file that loads there is the configuration of the same layers, and the same is told
  of them. -/
  loaded : ∀ c, Config.load m (namedFile m o named) = .ok c →
    ∃ s, ofOptions m { o with config := some named } =
        (.ok s, rootEvents m o
          ++ (Config.loadLayered m (userFile m o) (namedFile m o named)).2
          ++ [.workspaceRoot s.root.shown]) ∧
      s.configFile = namedFile m o named ∧
      s.config = withTool o.cargo (Config.loadLayered m (userFile m o) (namedFile m o named)).1
  /-- It makes no difference to name the usual file. -/
  same : namedFile m o named = usualFile m o → ∀ c, Config.load m (usualFile m o) = .ok c →
    (ofOptions m { o with config := some named }).1 = (ofOptions m { o with config := none }).1
  /-- With any other file there is none, and the command ends there. -/
  refused : ∀ e, Config.load m (namedFile m o named) = .error e →
    ofOptions m { o with config := some named } = (.error e, rootEvents m o) ∧
      execute m { o with config := some named } = (.error (.load e), rootEvents m o, m) ∧
      ∀ event ∈ rootEvents m o, ∃ manifest, event = .manifestIgnored manifest
  /-- The layers of such a file are those of the user and of the default. -/
  fallback : ∀ e, Config.load m (namedFile m o named) = .error e →
    Config.loadLayered m (userFile m o) (namedFile m o named) =
      ({ Config.default with metadata := (Config.loadOrDefault m (userFile m o)).1.metadata },
        (Config.loadOrDefault m (userFile m o)).2 ++
          if m.pathExists (namedFile m o named) then
            [.loadFailed (namedFile m o named).shown e.message]
          else [])
  /-- The program of the metadata tool is the only thing that the command itself may change. -/
  tool : ∀ program c, ChoosesTool program c (withTool (some program) c)
  noTool : ∀ c, withTool none c = c

/-! ## The root of a workspace -/

/-- While the root is looked for, nothing is told but which manifests cannot be read. -/
theorem manifestIgnored_of_mem_findRootAmong {m : Machine} {dirs : List Path} {event : Event}
    (h : event ∈ (Context.findRootAmong m dirs).2) :
    ∃ manifest, event = .manifestIgnored manifest := by
  have hmanifest : ∀ manifest, ∀ event ∈ (Context.declaresWorkspace m manifest).2,
      event = .manifestIgnored manifest.shown := by
    intro manifest event hevent
    unfold Context.declaresWorkspace at hevent
    split at hevent
    · cases hevent
    · split at hevent
      · exact List.mem_singleton.1 hevent
      · cases hevent
  induction dirs with
  | nil => cases h
  | cons dir dirs ih =>
      rw [Context.findRootAmong] at h
      split at h
      · exact ⟨_, hmanifest _ event h⟩
      · rcases List.mem_append.1 h with hdir | hdirs
        · exact ⟨_, hmanifest _ event hdir⟩
        · exact ih hdirs

theorem manifestIgnored_of_mem_rootEvents {m : Machine} {o : Options} {event : Event}
    (h : event ∈ rootEvents m o) : ∃ manifest, event = .manifestIgnored manifest := by
  rw [rootEvents, Context.workspaceRoot] at h
  split at h
  · cases h
  · exact manifestIgnored_of_mem_findRootAmong h

/-! ## The two ways -/

section Ways

variable {m : Machine} {o : Options} {named : Path}

/-- A file that was named and loads comes to the same as any two layers. -/
theorem loadNamed_of_load (context : Context) {file : Path} {c : Config}
    (h : Config.load m file = .ok c) :
    loadNamed m context file = .ok (Config.loadLayered m context.userConfig file) := by
  rw [Config.loadLayered_eq, Config.loadOrDefault_of_load h, List.append_nil, loadNamed, h]
  rfl

theorem loadNamed_of_load_error (context : Context) {file : Path} {e : LoadError}
    (h : Config.load m file = .error e) : loadNamed m context file = .error e := by
  rw [loadNamed, h]
  rfl

/-- What a command works with whose configuration is that of the user and of a file. -/
def sessionWith (m : Machine) (o : Options) (file : Path) : Session where
  context := contextOf m o.workspace
  root := m.normalize ((contextOf m o.workspace).workspaceRoot m).1
  configFile := file
  config := withTool o.cargo (Config.loadLayered m (userFile m o) file).1

theorem ofOptions_named {c : Config} (h : Config.load m (namedFile m o named) = .ok c) :
    ofOptions m { o with config := some named } =
      (.ok (sessionWith m o (namedFile m o named)), rootEvents m o
        ++ (Config.loadLayered m (userFile m o) (namedFile m o named)).2
        ++ [.workspaceRoot (sessionWith m o (namedFile m o named)).root.shown]) := by
  have hfound : loadConfig m (contextOf m o.workspace) (some named) =
      .ok ((namedFile m o named,
        (Config.loadLayered m (userFile m o) (namedFile m o named)).1),
        (Config.loadLayered m (userFile m o) (namedFile m o named)).2) := by
    have hnamed := loadNamed_of_load (contextOf m o.workspace) h
    rw [namedFile] at hnamed
    simp only [loadConfig, hnamed]
    rfl
  simp only [ofOptions, hfound]
  rfl

theorem ofOptions_refused {e : LoadError} (h : Config.load m (namedFile m o named) = .error e) :
    ofOptions m { o with config := some named } = (.error e, rootEvents m o) := by
  have hfound : loadConfig m (contextOf m o.workspace) (some named) = .error e := by
    have hnamed := loadNamed_of_load_error (contextOf m o.workspace) h
    rw [namedFile] at hnamed
    simp only [loadConfig, hnamed]
    rfl
  simp only [ofOptions, hfound]
  rfl

theorem ofOptions_usual (m : Machine) (o : Options) :
    (ofOptions m { o with config := none }).1 = .ok (sessionWith m o (usualFile m o)) := rfl

/-- A command ends at a file that does not load. The files of the machine are as they were. -/
theorem execute_refused {e : LoadError} (h : Config.load m (namedFile m o named) = .error e) :
    execute m { o with config := some named } = (.error (.load e), rootEvents m o, m) := by
  rw [execute, ofOptions_refused h]

theorem loadLayered_of_load_error {user file : Path} {e : LoadError}
    (h : Config.load m file = .error e) :
    Config.loadLayered m user file =
      ({ Config.default with metadata := (Config.loadOrDefault m user).1.metadata },
        (Config.loadOrDefault m user).2 ++
          if m.pathExists file then [.loadFailed file.shown e.message] else []) := by
  rw [Config.loadLayered_eq, Config.loadOrDefault_of_load_error h]
  rfl

theorem choosesTool_withTool (program : Path) (c : Config) :
    ChoosesTool program c (withTool (some program) c) :=
  ⟨rfl, rfl, rfl, rfl, rfl, rfl, rfl, rfl, rfl⟩

/-- Whether a configuration file is named or is that of the workspace makes no difference, as long
as it can be used. -/
theorem loadedAlike (m : Machine) (o : Options) (named : Path) : LoadedAlike m o named where
  usual := ⟨_, ofOptions_usual m o, rfl, rfl⟩
  loaded _ h := ⟨_, ofOptions_named h, rfl, rfl⟩
  same hfile _ h := by
    rw [← hfile] at h
    rw [ofOptions_usual, ofOptions_named h, hfile]
  refused _ h := ⟨ofOptions_refused h, execute_refused h,
    fun _ hevent => manifestIgnored_of_mem_rootEvents hevent⟩
  fallback _ h := loadLayered_of_load_error h
  tool := choosesTool_withTool
  noTool _ := rfl

end Ways

end CommandLine

end CrateGraph
