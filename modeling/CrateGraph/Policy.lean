import CrateGraph.Decode

/-!
# The static policy

Unlike the graph, the policy is read once, when the orchestrator loads its settings: which
plugins to load, what the targets of some projects depend on and watch, and named groups
of input patterns.
-/

namespace CrateGraph

/-- A plugin to load. -/
structure Plugin where
  path : String
  options : Table Value
deriving DecidableEq, Repr

/-- What a target waits for and which files it watches. -/
structure TargetDefault where
  dependsOn : List String
  inputs : List String
deriving DecidableEq, Repr

/-- The settings that are handed to the orchestrator. -/
structure Policy where
  plugins : List Plugin
  /-- By project and target, as in `targetKey`. -/
  targetDefaults : Table TargetDefault
  /-- Groups of patterns by name. -/
  namedInputs : Table (List String)
deriving DecidableEq, Repr

/-- How the policy names a target of a project. -/
def targetKey (project target : String) : String := project ++ ":" ++ target

namespace Plugin

/-- The plugin as a tree. -/
def encode (p : Plugin) : Value :=
  .table [("plugin", .text p.path), ("options", Value.ofTable id p.options)]

/-- Decodes a plugin. -/
def decode : Decoder Plugin := Decode.record "PluginEntry" <|
  Plugin.mk
    <$> .required "plugin" Decode.text
    <*> .defaulted "options" (Decode.table Decode.any) .empty

end Plugin

namespace TargetDefault

/-- The defaults as a tree. -/
def encode (d : TargetDefault) : Value :=
  .table [("dependsOn", Value.ofTexts d.dependsOn), ("inputs", Value.ofTexts d.inputs)]

/-- Decodes the defaults of a target. -/
def decode : Decoder TargetDefault := Decode.record "TargetDefault" <|
  TargetDefault.mk
    <$> .required "dependsOn" (Decode.list Decode.text)
    <*> .required "inputs" (Decode.list Decode.text)

end TargetDefault

namespace Policy

/-- The policy that asks for nothing. -/
def empty : Policy := ⟨[], .empty, .empty⟩

/-- The defaults of a target of a project. -/
def targetDefault? (p : Policy) (project target : String) : Option TargetDefault :=
  p.targetDefaults.find? (targetKey project target)

/-- The policy as a tree, without the plugins if there are none. -/
def encode (p : Policy) : Value :=
  .table <|
    Value.entryIf (!p.plugins.isEmpty) "plugins" (.list (p.plugins.map Plugin.encode))
      ++ [("targetDefaults", Value.ofTable TargetDefault.encode p.targetDefaults),
        ("namedInputs", Value.ofTable Value.ofTexts p.namedInputs)]

/-- Decodes a policy. -/
def decode : Decoder Policy := Decode.record "PolicyFragment" <|
  Policy.mk
    <$> .defaulted "plugins" (Decode.list Plugin.decode) []
    <*> .defaulted "targetDefaults" (Decode.table TargetDefault.decode) .empty
    <*> .defaulted "namedInputs" (Decode.table (Decode.list Decode.text)) .empty

end Policy

end CrateGraph
