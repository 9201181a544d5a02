import CrateGraph.CommandLine.Arguments
import CrateGraph.Context
import CrateGraph.Synchronizer

/-!
# What a command works with

Before a command is run, the root of the workspace and the configuration are found. A
configuration file that was named must be one; the usual file may be missing or wrong, which
is told of. The program of the metadata tool may be given with the command, before any file.
-/

namespace CrateGraph.CommandLine

/-- What a command works with. -/
structure Session where
  context : Context
  /-- The root of the workspace. -/
  root : Path
  /-- The configuration file of the project. -/
  configFile : Path
  config : Config

namespace Session

/-- Where a command works. -/
def contextOf (m : Machine) (workspace : Option Path) : Context :=
  let c := Context.ofCwd m (FileTree.pathOf m.cwd)
  match workspace with
  | some root => c.pin root
  | none => c

/-- The configuration with a file of the project that was named, over the settings of the
user. -/
def loadNamed (m : Machine) (c : Context) (file : Path) :
    Except LoadError (Config × List Event) := do
  let project ← Config.load m file
  let (user, events) := Config.loadOrDefault m c.userConfig
  return ({ project with metadata := project.metadata.layeredOver user.metadata }, events)

/-- The configuration file of the project and the configuration. -/
def loadConfig (m : Machine) (c : Context) (named : Option Path) :
    Except LoadError ((Path × Config) × List Event) :=
  match named with
  | some path => do
    let file := c.cwd.join path
    let (config, events) ← loadNamed m c file
    return ((file, config), events)
  | none =>
    let (file, events) := c.projectConfig m
    let (config, more) := c.loadConfig m
    .ok ((file, config), events ++ more)

/-- The configuration with another program as the metadata tool, if one is given. -/
def withTool (program : Option Path) (c : Config) : Config :=
  match program with
  | some p => { c with metadata := { c.metadata with program := some p } }
  | none => c

/-- What a command with some options works with. -/
def ofOptions (m : Machine) (o : Options) : Except LoadError Session × List Event :=
  let c := contextOf m o.workspace
  let (found, events) := c.workspaceRoot m
  let root := m.normalize found
  match loadConfig m c o.config with
  | .error e => (.error e, events)
  | .ok ((file, config), more) =>
    (.ok ⟨c, root, file, withTool o.cargo config⟩, events ++ more ++ [.workspaceRoot root.shown])

/-- A synchronizer over the metadata tool. -/
def synchronizer (s : Session) : Except ConfigError (Synchronizer Machine) :=
  Synchronizer.ofConfig s.config (Metadata.Tool.ofSettings s.config.metadata).source

end Session

end CrateGraph.CommandLine
