import CrateGraph.Decode
import CrateGraph.Glob
import CrateGraph.Path

/-!
# Configuration

A configuration says how the metadata tool is run, which crates get targets and how
projects are named, where the native sources are, what the targets of a crate look like,
and in which order a native crate, its binding and the consumer of that are built.

Every section and nearly every field has a default, and a configuration decodes from a
tree in which any of them is absent. Only the first four fields of the triggers have none,
since there is no telling what they would be.
-/

namespace CrateGraph

/-- How the metadata tool is run. A field that is not set leaves the choice to a layer of
configuration below, and to the default in the end. -/
structure MetadataSettings where
  program : Option Path
  formatVersion : Option UInt32
  noDeps : Option Bool
  maxBuffer : Option UInt64
  timeoutSecs : Option UInt64
deriving DecidableEq, Repr

/-- Which crates get targets and how projects are named. -/
structure Naming where
  /-- Stands before the names of crates without targets. -/
  structuralPrefix : String
  /-- The crates that get targets. -/
  explicit : List String
  /-- The project names of those whose project is not called like the crate. -/
  names : Table String
deriving DecidableEq, Repr

/-- Where the native sources of the workspace are. -/
structure Sources where
  included : List String
  /-- Build output and generated files. -/
  excluded : List String
  /-- The manifests of packages. -/
  manifests : List String
  /-- The name under which the policy offers these patterns. -/
  namedInput : String
deriving DecidableEq, Repr

/-- What the targets of a crate look like. -/
structure Template where
  buildExecutor : String
  /-- The command that is run in the root of the crate. -/
  buildCommand : String
  /-- The files that a build produces. -/
  outputs : List String
  testExecutor : String
  lintExecutor : String
  /-- The tags of crates with targets. -/
  tags : List String
  /-- The tags of crates without targets. -/
  structuralTags : List String
deriving DecidableEq, Repr

/-- The order in which a native crate, its binding and its consumer are built. -/
structure Triggers where
  /-- The crate that produces the native module. -/
  nativeCrate : String
  /-- The project that wraps the module. -/
  bindingProject : String
  /-- The project that uses the binding. -/
  consumerProject : String
  /-- The generated files that the consumer watches. -/
  bindingDir : String
  consumerInputs : List String
  /-- The plugin that the policy registers. -/
  plugin : Option String
deriving DecidableEq, Repr

/-- A configuration. -/
structure Config where
  metadata : MetadataSettings
  graph : Naming
  sources : Sources
  targets : Template
  triggers : Option Triggers
deriving DecidableEq, Repr

/-! ### Defaults -/

namespace MetadataSettings

/-- Settings that leave everything open. -/
def unset : MetadataSettings := ⟨none, none, none, none, none⟩

instance : Inhabited MetadataSettings := ⟨unset⟩

/-- The program to run. -/
def toolProgram (m : MetadataSettings) : Path := m.program.getD (.ofText "cargo")

/-- The version of the document format to ask for. -/
def requestedVersion (m : MetadataSettings) : UInt32 := m.formatVersion.getD 1

/-- Whether to leave out the packages that the workspace depends on. -/
def withoutDeps (m : MetadataSettings) : Bool := m.noDeps.getD true

/-- The number of bytes that the tool may write, ten mebibytes if it is not set. -/
def outputBudget (m : MetadataSettings) : UInt64 := m.maxBuffer.getD (10 * 1024 * 1024)

/-- The number of seconds after which the tool is stopped, two minutes if it is not set. A
tool with no seconds at all is never stopped. -/
def timeout? (m : MetadataSettings) : Option UInt64 :=
  let secs := m.timeoutSecs.getD 120
  if secs = 0 then none else some secs

/-- The settings of a layer put over those below it: what it sets counts. -/
def layeredOver (upper lower : MetadataSettings) : MetadataSettings where
  program := upper.program <|> lower.program
  formatVersion := upper.formatVersion <|> lower.formatVersion
  noDeps := upper.noDeps <|> lower.noDeps
  maxBuffer := upper.maxBuffer <|> lower.maxBuffer
  timeoutSecs := upper.timeoutSecs <|> lower.timeoutSecs

end MetadataSettings

namespace Naming

/-- No crate has targets, and crates are set apart by the name of their language. -/
def default : Naming := ⟨"rust:", [], .empty⟩

instance : Inhabited Naming := ⟨default⟩

/-- Whether a crate gets targets. -/
def isExplicit (n : Naming) (package : String) : Bool := n.explicit.contains package

/-- The project name of a crate with targets. -/
def materializedName (n : Naming) (package : String) : String :=
  (n.names.find? package).getD package

/-- The project name of a crate without targets. -/
def structuralName (n : Naming) (package : String) : String := n.structuralPrefix ++ package

end Naming

namespace Sources

/-- The crates below the directory `crates`. -/
def default : Sources where
  included := [Glob.workspaceRoot ++ "/crates/**/*.rs"]
  excluded := [Glob.workspaceRoot ++ "/crates/**/target/**/*",
    Glob.workspaceRoot ++ "/crates/**/*.gen.rs"]
  manifests := [Glob.workspaceRoot ++ "/crates/**/Cargo.toml"]
  namedInput := "rustSources"

instance : Inhabited Sources := ⟨default⟩

/-- The patterns of the sources, and then what is taken away from them. -/
def nativeSources (s : Sources) : List String := s.included ++ s.excluded.map Glob.negate

/-- The patterns of the sources and the manifests, and then what is taken away. -/
def withManifests (s : Sources) : List String :=
  s.included ++ s.manifests ++ s.excluded.map Glob.negate

end Sources

namespace Template

/-- Crates that are built into a native module for JavaScript. -/
def default : Template where
  buildExecutor := "nx:run-commands"
  buildCommand := "napi build --platform --js binding.js --dts binding.d.ts"
  outputs := ["binding.js", "binding.d.ts", "*.node", "*.wasm"].map
    fun file => Glob.projectRoot ++ "/" ++ file
  testExecutor := "@monodon/rust:test"
  lintExecutor := "@monodon/rust:lint"
  tags := ["rust", "binding", "napi"]
  structuralTags := ["rust", "lib"]

instance : Inhabited Template := ⟨default⟩

end Template

namespace Config

/-- The configuration of a workspace that says nothing. -/
def default : Config := ⟨.unset, .default, .default, .default, none⟩

instance : Inhabited Config := ⟨default⟩

end Config

/-! ### Trees -/

namespace Decode

/-- A 32-bit number. -/
def word32 : Decoder UInt32 := fun f v => (natural 4294967296 "u32" f v).map UInt32.ofNat

/-- A 64-bit number, wanted under a name of its own. -/
def word64 (wanted : String) : Decoder UInt64 := fun f v =>
  (natural wordLimit wanted f v).map UInt64.ofNat

/-- A list of texts. -/
def texts : Decoder (List String) := list text

end Decode

namespace MetadataSettings

/-- The settings as a tree, with null for what is not set. The path of a program can be written
only if it is text. -/
def encode? (m : MetadataSettings) : Option Value := do
  let program ← match m.program with
    | none => some .null
    | some p => p.text?.map .text
  return .table [
    ("program", program),
    ("format_version", Value.ofOption (fun n => .int n.toNat) m.formatVersion),
    ("no_deps", Value.ofOption .bool m.noDeps),
    ("max_buffer", Value.ofOption (fun n => .int n.toNat) m.maxBuffer),
    ("timeout_secs", Value.ofOption (fun n => .int n.toNat) m.timeoutSecs)]

/-- Decodes settings. -/
def decode : Decoder MetadataSettings := Decode.record "MetadataConfig" <|
  MetadataSettings.mk
    <$> .defaulted "program" (Decode.option fun f v =>
      (Decode.textAs "path string" f v).map .ofText) none
    <*> .defaulted "format_version" (Decode.option Decode.word32) none
    <*> .defaulted "no_deps" (Decode.option Decode.bool) none
    <*> .defaulted "max_buffer" (Decode.option (Decode.word64 "usize")) none
    <*> .defaulted "timeout_secs" (Decode.option (Decode.word64 "u64")) none

end MetadataSettings

namespace Naming

/-- The naming as a tree. -/
def encode (n : Naming) : Value :=
  .table [("prefix", .text n.structuralPrefix), ("explicit", Value.ofTexts n.explicit),
    ("names", Value.ofTable .text n.names)]

/-- Decodes a naming. -/
def decode : Decoder Naming := Decode.record "GraphConfig" <|
  Naming.mk
    <$> .defaulted "prefix" Decode.text default.structuralPrefix
    <*> .defaulted "explicit" Decode.texts default.explicit
    <*> .defaulted "names" (Decode.table Decode.text) default.names

end Naming

namespace Sources

/-- The sources as a tree. -/
def encode (s : Sources) : Value :=
  .table [("include", Value.ofTexts s.included), ("exclude", Value.ofTexts s.excluded),
    ("manifests", Value.ofTexts s.manifests), ("named_input", .text s.namedInput)]

/-- Decodes sources. -/
def decode : Decoder Sources := Decode.record "SourceGlobs" <|
  Sources.mk
    <$> .defaulted "include" Decode.texts default.included
    <*> .defaulted "exclude" Decode.texts default.excluded
    <*> .defaulted "manifests" Decode.texts default.manifests
    <*> .defaulted "named_input" Decode.text default.namedInput

end Sources

namespace Template

/-- The template as a tree. -/
def encode (t : Template) : Value :=
  .table [("build_executor", .text t.buildExecutor), ("build_command", .text t.buildCommand),
    ("outputs", Value.ofTexts t.outputs), ("test_executor", .text t.testExecutor),
    ("lint_executor", .text t.lintExecutor), ("tags", Value.ofTexts t.tags),
    ("structural_tags", Value.ofTexts t.structuralTags)]

/-- Decodes a template. -/
def decode : Decoder Template := Decode.record "TargetTemplate" <|
  Template.mk
    <$> .defaulted "build_executor" Decode.text default.buildExecutor
    <*> .defaulted "build_command" Decode.text default.buildCommand
    <*> .defaulted "outputs" Decode.texts default.outputs
    <*> .defaulted "test_executor" Decode.text default.testExecutor
    <*> .defaulted "lint_executor" Decode.text default.lintExecutor
    <*> .defaulted "tags" Decode.texts default.tags
    <*> .defaulted "structural_tags" Decode.texts default.structuralTags

end Template

namespace Triggers

/-- The patterns that a consumer watches besides the binding: its own sources. -/
def defaultConsumerInputs : List String := [Glob.projectRoot ++ "/src/**/*"]

/-- The triggers as a tree, without a plugin if there is none. -/
def encode (t : Triggers) : Value :=
  .table <|
    [("native_crate", .text t.nativeCrate), ("binding_project", .text t.bindingProject),
      ("consumer_project", .text t.consumerProject), ("binding_dir", .text t.bindingDir),
      ("consumer_inputs", Value.ofTexts t.consumerInputs)]
      ++ Value.entryIf t.plugin.isSome "plugin" (Value.ofOption .text t.plugin)

/-- Decodes triggers. -/
def decode : Decoder Triggers := Decode.record "TriggerPolicy" <|
  Triggers.mk
    <$> .required "native_crate" Decode.text
    <*> .required "binding_project" Decode.text
    <*> .required "consumer_project" Decode.text
    <*> .required "binding_dir" Decode.text
    <*> .defaulted "consumer_inputs" Decode.texts defaultConsumerInputs
    <*> .defaulted "plugin" (Decode.option Decode.text) none

end Triggers

namespace Config

/-- The configuration as a tree, without triggers if there are none. -/
def encode? (c : Config) : Option Value := do
  let metadata ← c.metadata.encode?
  return .table <|
    [("metadata", metadata), ("graph", c.graph.encode),
      ("sources", c.sources.encode), ("targets", c.targets.encode)]
      ++ Value.entryIf c.triggers.isSome "triggers" (Value.ofOption Triggers.encode c.triggers)

/-- Decodes a configuration. -/
def decode : Decoder Config := Decode.record "Config" <|
  Config.mk
    <$> .defaulted "metadata" MetadataSettings.decode .unset
    <*> .defaulted "graph" Naming.decode .default
    <*> .defaulted "sources" Sources.decode .default
    <*> .defaulted "targets" Template.decode .default
    <*> .defaulted "triggers" (Decode.option Triggers.decode) none

end Config

end CrateGraph
