import CrateGraph.Decode

/-!
# Nodes of the project graph

The orchestrator knows a crate as a project: a directory, a name, and the targets that can
be run for it. A project without targets is implicit; it is there so that builds are
ordered and changes are passed on, and is never scheduled.

Every type here has a tree (`encode`) in the orchestrator's own notation and a decoder for
it. Of a node's tree the name of its crate is not part.
-/

namespace CrateGraph

/-- The category of a project. Every crate is a library. -/
inductive ProjectKind where
  | library
deriving DecidableEq, Repr

/-- A command and the directory it is run in. -/
structure Command where
  command : String
  cwd : String
deriving DecidableEq, Repr

/-- Something that can be run for a project. -/
structure Target where
  /-- The executor that runs it; its name means something to the orchestrator only. -/
  executor : String
  options : Option Command
  /-- Patterns of the files whose change makes it run again. -/
  inputs : List String
  /-- The files it produces. -/
  outputs : List String
  /-- The targets that run before it. -/
  dependsOn : List String
deriving DecidableEq, Repr

/-- A project. -/
structure Node where
  /-- Its directory, from the workspace root. -/
  root : String
  /-- Its name in the orchestrator. -/
  name : String
  /-- The directory of its sources, from the workspace root. -/
  sourceRoot : String
  kind : ProjectKind
  /-- Whether it is never scheduled. -/
  implicit : Bool
  /-- Its targets by name. -/
  targets : Table Target
  tags : List String
  /-- The crate that it was made from. -/
  packageName : String
deriving DecidableEq, Repr

/-- The projects of a graph by their roots. What lies outside of the workspace is not
represented, so `externalNodes` is empty in every fragment that is made here. -/
structure Fragment where
  projects : Table Node
  externalNodes : Table Value
deriving DecidableEq, Repr

namespace ProjectKind

/-- The kind as a tree. -/
def encode : ProjectKind → Value
  | .library => .text "library"

/-- Decodes a kind. -/
def decode : Decoder ProjectKind := Decode.variant [("library", .library)]

end ProjectKind

namespace Command

/-- The command as a tree. -/
def encode (c : Command) : Value :=
  .table [("command", .text c.command), ("cwd", .text c.cwd)]

/-- Decodes a command. -/
def decode : Decoder Command := Decode.record "CommandOptions" <|
  Command.mk <$> .required "command" Decode.text <*> .required "cwd" Decode.text

end Command

namespace Target

/-- The name of the target that builds a crate. -/
def build : String := "build"

/-- The name of the target that tests a crate. -/
def test : String := "test"

/-- The name of the target that lints a crate. -/
def lint : String := "lint"

/-- A target that is left to its executor. -/
def ofExecutor (executor : String) : Target := ⟨executor, none, [], [], []⟩

/-- The target with a command that its executor runs in a directory. -/
def withCommand (t : Target) (command cwd : String) : Target :=
  { t with options := some ⟨command, cwd⟩ }

/-- The target with other inputs. -/
def withInputs (t : Target) (inputs : List String) : Target := { t with inputs }

/-- The target with other outputs. -/
def withOutputs (t : Target) (outputs : List String) : Target := { t with outputs }

/-- The target as a tree, without what is absent or empty. -/
def encode (t : Target) : Value :=
  .table <|
    [("executor", .text t.executor)]
      ++ Value.entryIf t.options.isSome "options" (Value.ofOption Command.encode t.options)
      ++ Value.entryIf (!t.inputs.isEmpty) "inputs" (Value.ofTexts t.inputs)
      ++ Value.entryIf (!t.outputs.isEmpty) "outputs" (Value.ofTexts t.outputs)
      ++ Value.entryIf (!t.dependsOn.isEmpty) "dependsOn" (Value.ofTexts t.dependsOn)

/-- Decodes a target. -/
def decode : Decoder Target := Decode.record "TargetSpec" <|
  Target.mk
    <$> .required "executor" Decode.text
    <*> .defaulted "options" (Decode.option Command.decode) none
    <*> .defaulted "inputs" (Decode.list Decode.text) []
    <*> .defaulted "outputs" (Decode.list Decode.text) []
    <*> .defaulted "dependsOn" (Decode.list Decode.text) []

end Target

namespace Node

/-- Whether the project has targets that can be scheduled. -/
def isMaterialized (n : Node) : Bool := !n.implicit

/-- The node as a tree; that it is implicit is only said when it is. -/
def encode (n : Node) : Value :=
  .table <|
    [("root", .text n.root), ("name", .text n.name), ("sourceRoot", .text n.sourceRoot),
      ("projectType", n.kind.encode)]
      ++ Value.entryIf n.implicit "implicit" (.bool true)
      ++ [("targets", Value.ofTable Target.encode n.targets), ("tags", Value.ofTexts n.tags)]

/-- Decodes a node. The name of its crate is not known from its tree. -/
def decode : Decoder Node := Decode.record "GraphNode" <|
  (fun root name sourceRoot kind implicit targets tags =>
      { root, name, sourceRoot, kind, implicit, targets, tags, packageName := "" })
    <$> .required "root" Decode.text
    <*> .required "name" Decode.text
    <*> .required "sourceRoot" Decode.text
    <*> .required "projectType" ProjectKind.decode
    <*> .defaulted "implicit" Decode.bool false
    <*> .defaulted "targets" (Decode.table Target.decode) .empty
    <*> .defaulted "tags" (Decode.list Decode.text) []

end Node

namespace Fragment

/-- What the tree of a fragment holds. -/
def entries (f : Fragment) : List (String × Value) :=
  [("projects", Value.ofTable Node.encode f.projects),
    ("externalNodes", Value.ofTable id f.externalNodes)]

/-- The fragment as a tree. -/
def encode (f : Fragment) : Value := .table f.entries

/-- Decodes a fragment. -/
def decode : Decoder Fragment := Decode.record "ProjectGraphFragment" <|
  Fragment.mk
    <$> .required "projects" (Decode.table Node.decode)
    <*> .required "externalNodes" (Decode.table Decode.any)

/-- Whether there is no project. -/
def isEmpty (f : Fragment) : Bool := f.projects.isEmpty

end Fragment

end CrateGraph
