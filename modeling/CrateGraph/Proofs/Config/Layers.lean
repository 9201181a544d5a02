import CrateGraph.Config.Load
import CrateGraph.Proofs.Success

/-!
# Layers of configuration

The configuration of a workspace is made from two files, and either of them may be in any
state: there may be none, it may be broken in one of four ways, or it may hold a
configuration. What each file contributes depends on its own state alone, so the law is
stated for the states of both, and every path of every machine is in exactly one state.

## Main results

* `exists_foundAt`, `FoundAt.unique` — the state of a file.
* `loadOrDefault_of_foundAt` — what a file contributes and what is told of it.
* `layered_loadLayered` — the two files together.
-/

namespace CrateGraph

/-- What there is in place of a configuration file. -/
inductive Found where
  | absent
  | unreadable (e : FileError)
  | notText
  | notToml
  /-- The file is TOML of another shape. -/
  | misshapen (e : DecodeError)
  | valid (c : Config)

/-- What there is at a path of a machine, in place of a configuration file. -/
inductive FoundAt (m : Machine) (p : Path) : Found → Prop
  | absent (hexists : m.pathExists p = false) : FoundAt m p .absent
  | unreadable {e : FileError} (hexists : m.pathExists p = true)
      (hread : m.tree.read m.cwd p = .error e) : FoundAt m p (.unreadable e)
  | notText {bytes : Bytes} (hexists : m.pathExists p = true)
      (hread : m.tree.read m.cwd p = .ok bytes) (htext : Text.ofBytes? bytes = none) :
      FoundAt m p .notText
  | notToml {bytes : Bytes} {s : String} (hexists : m.pathExists p = true)
      (hread : m.tree.read m.cwd p = .ok bytes) (htext : Text.ofBytes? bytes = some s)
      (hparse : Toml.parse s = none) : FoundAt m p .notToml
  | misshapen {bytes : Bytes} {s : String} {v : Value} {e : DecodeError}
      (hexists : m.pathExists p = true) (hread : m.tree.read m.cwd p = .ok bytes)
      (htext : Text.ofBytes? bytes = some s) (hparse : Toml.parse s = some v)
      (hdecode : Config.decode .toml v = .error e) : FoundAt m p (.misshapen e)
  | valid {bytes : Bytes} {s : String} {v : Value} {c : Config}
      (hexists : m.pathExists p = true) (hread : m.tree.read m.cwd p = .ok bytes)
      (htext : Text.ofBytes? bytes = some s) (hparse : Toml.parse s = some v)
      (hdecode : Config.decode .toml v = .ok c) : FoundAt m p (.valid c)

namespace Found

/-- The configuration that a file contributes. -/
def config : Found → Config
  | valid c => c
  | _ => .default

/-- Why a file that is there contributes nothing. -/
def fault? (p : Path) : Found → Option LoadError
  | absent => none
  | unreadable e => some (.unreadable p e)
  | notText => some (.unreadable p .notText)
  | notToml => some (.unparsable p .notToml)
  | misshapen e => some (.unparsable p (.wrong e))
  | valid _ => none

/-- What is told of a file. -/
def warnings (p : Path) (f : Found) : List Event :=
  (f.fault? p).toList.map fun e => .loadFailed p.shown e.message

end Found

/-- What two files come to: the settings of the tool field by field, what the project sets before
what the user sets, and everything else from the project alone. -/
structure Layered (user project : Path) (u p : Found) (c : Config) (events : List Event) : Prop where
  graph : c.graph = p.config.graph
  sources : c.sources = p.config.sources
  targets : c.targets = p.config.targets
  triggers : c.triggers = p.config.triggers
  program : c.metadata.program = (p.config.metadata.program <|> u.config.metadata.program)
  formatVersion :
    c.metadata.formatVersion = (p.config.metadata.formatVersion <|> u.config.metadata.formatVersion)
  noDeps : c.metadata.noDeps = (p.config.metadata.noDeps <|> u.config.metadata.noDeps)
  maxBuffer : c.metadata.maxBuffer = (p.config.metadata.maxBuffer <|> u.config.metadata.maxBuffer)
  timeoutSecs :
    c.metadata.timeoutSecs = (p.config.metadata.timeoutSecs <|> u.config.metadata.timeoutSecs)
  /-- One warning for each file that is broken, that of the user first. -/
  told : events = u.warnings user ++ p.warnings project
  warned : ∀ e ∈ events, e.level = .warn

/-! ## The state of a file -/

section States

variable {m : Machine} {p : Path} {f g : Found}

theorem FoundAt.unique (hf : FoundAt m p f) (hg : FoundAt m p g) : f = g := by
  cases hf <;> cases hg <;> simp_all

theorem FoundAt.iff_eq (hf : FoundAt m p f) (g : Found) : FoundAt m p g ↔ g = f :=
  ⟨fun hg => hg.unique hf, fun heq => heq ▸ hf⟩

theorem exists_foundAt (m : Machine) (p : Path) : ∃ f, FoundAt m p f := by
  cases hexists : m.pathExists p with
  | false => exact ⟨_, .absent hexists⟩
  | true =>
      cases hread : m.tree.read m.cwd p with
      | error e => exact ⟨_, .unreadable hexists hread⟩
      | ok bytes =>
          cases htext : Text.ofBytes? bytes with
          | none => exact ⟨_, .notText hexists hread htext⟩
          | some s =>
              cases hparse : Toml.parse s with
              | none => exact ⟨_, .notToml hexists hread htext hparse⟩
              | some v =>
                  cases hdecode : Config.decode .toml v with
                  | error e => exact ⟨_, .misshapen hexists hread htext hparse hdecode⟩
                  | ok c => exact ⟨_, .valid hexists hread htext hparse hdecode⟩

theorem load_of_readText_error {e : FileError} (h : m.readText p = .error e) :
    Config.load m p = .error (.unreadable p e) := by
  rw [Config.load, h]
  rfl

theorem load_of_readText {s : String} (h : m.readText p = .ok s) :
    Config.load m p = (Config.ofText s).mapError (.unparsable p) := by
  rw [Config.load, h]
  rfl

theorem readText_of_read {bytes : Bytes} (hread : m.tree.read m.cwd p = .ok bytes) :
    m.readText p = match Text.ofBytes? bytes with
      | some s => .ok s
      | none => .error .notText := by
  simp only [Machine.readText, FileTree.readText, hread, bind, Except.bind]
  cases Text.ofBytes? bytes <;> rfl

/-- A file that is there has a fault and is not loaded, or has none and is. -/
theorem load_of_foundAt (h : FoundAt m p f) (hexists : m.pathExists p = true) :
    Config.load m p = match f.fault? p with
      | some e => .error e
      | none => .ok f.config := by
  cases h with
  | absent habsent => simp [habsent] at hexists
  | @unreadable e _ hread =>
      have htext : m.readText p = .error e := by
        rw [Machine.readText, FileTree.readText, hread]
        rfl
      rw [load_of_readText_error htext]
      rfl
  | notText _ hread hbytes =>
      have htext : m.readText p = .error .notText := by rw [readText_of_read hread, hbytes]
      rw [load_of_readText_error htext]
      rfl
  | @notToml _ s _ hread hbytes hparse =>
      have htext : m.readText p = .ok s := by rw [readText_of_read hread, hbytes]
      rw [load_of_readText htext, Config.ofText, hparse]
      rfl
  | @misshapen _ s _ _ _ hread hbytes hparse hdecode =>
      have htext : m.readText p = .ok s := by rw [readText_of_read hread, hbytes]
      simp only [load_of_readText htext, Config.ofText, hparse, hdecode]
      rfl
  | @valid _ s _ _ _ hread hbytes hparse hdecode =>
      have htext : m.readText p = .ok s := by rw [readText_of_read hread, hbytes]
      simp only [load_of_readText htext, Config.ofText, hparse, hdecode]
      rfl

/-- A file contributes the configuration in it, and is told of if there is something else. -/
theorem loadOrDefault_of_foundAt (h : FoundAt m p f) :
    Config.loadOrDefault m p = (f.config, f.warnings p) := by
  cases hexists : m.pathExists p with
  | false =>
      have hf : f = .absent := h.unique (.absent hexists)
      simp [Config.loadOrDefault, hexists, hf, Found.config, Found.warnings, Found.fault?]
  | true =>
      have hload := load_of_foundAt h hexists
      unfold Config.loadOrDefault
      rw [if_pos hexists, hload]
      cases f <;> rfl

end States

/-! ## Two files -/

/-- The file of the user is looked at as that of the project is. -/
theorem Config.loadLayered_eq (m : Machine) (user project : Path) :
    loadLayered m user project =
      ({ (loadOrDefault m project).1 with
          metadata := (loadOrDefault m project).1.metadata.layeredOver
            (loadOrDefault m user).1.metadata },
        (loadOrDefault m user).2 ++ (loadOrDefault m project).2) := by
  cases hexists : m.pathExists user with
  | true => simp only [loadLayered, hexists, if_true]
  | false =>
      have hnone : loadOrDefault m user = (.default, []) := by simp [loadOrDefault, hexists]
      simp only [loadLayered, hexists, hnone]
      rfl

/-- Nothing but warnings is told of a file. -/
theorem Found.level_of_mem_warnings {p : Path} {f : Found} {e : Event} (h : e ∈ f.warnings p) :
    e.level = .warn := by
  obtain ⟨fault, -, rfl⟩ := List.mem_map.1 h
  rfl

/-- The configuration of a workspace, by the states of the two files that it is made from. Each
file is in one state and in no other. -/
theorem layered_loadLayered (m : Machine) (user project : Path) :
    ∃ u p, (∀ f, FoundAt m user f ↔ f = u) ∧ (∀ f, FoundAt m project f ↔ f = p) ∧
      Layered user project u p (Config.loadLayered m user project).1
        (Config.loadLayered m user project).2 := by
  obtain ⟨u, hu⟩ := exists_foundAt m user
  obtain ⟨p, hp⟩ := exists_foundAt m project
  refine ⟨u, p, hu.iff_eq, hp.iff_eq, ?_⟩
  rw [Config.loadLayered_eq, loadOrDefault_of_foundAt hu, loadOrDefault_of_foundAt hp]
  have hwarned : ∀ e ∈ u.warnings user ++ p.warnings project, e.level = .warn := by
    intro e he
    rcases List.mem_append.1 he with he | he
    · exact Found.level_of_mem_warnings he
    · exact Found.level_of_mem_warnings he
  exact ⟨rfl, rfl, rfl, rfl, rfl, rfl, rfl, rfl, rfl, rfl, hwarned⟩

/-- A tool that the project names, with a setting that the user makes, and names that only the
project can set. -/
example :
    let project := "[metadata]\nprogram = \"tool\"\n[graph]\nprefix = \"lib:\"\n"
    let user := "metadata.no_deps = false\n[graph]\nprefix = \"own:\"\n"
    let tree : FileTree := ⟨[(FileTree.locationOf ["ws"], .file (Text.toBytes project) .plain),
      (FileTree.locationOf ["user"], .file (Text.toBytes user) .plain)]⟩
    Config.loadLayered ⟨tree, [], .ofText "/", []⟩ (.ofText "/user") (.ofText "/ws") =
      ({ Config.default with
          metadata :=
            { MetadataSettings.unset with program := some (.ofText "tool"), noDeps := some false }
          graph := { Naming.default with structuralPrefix := "lib:" } }, []) := by
  cbv

end CrateGraph
