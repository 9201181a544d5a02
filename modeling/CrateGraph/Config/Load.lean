import CrateGraph.Config
import CrateGraph.Log
import CrateGraph.Machine
import CrateGraph.Toml.Section

/-!
# Loading configurations

A configuration is read from the file of a project. The settings of the metadata tool may
also be given in a file of the user, for all workspaces; what the project sets counts
before that. Everything else is up to the project alone.

A file that is there but cannot be used is told of, and then taken as if it were not
there.
-/

namespace CrateGraph

/-- Why a text is no configuration. -/
inductive ConfigTextError where
  /-- The text is not TOML. -/
  | notToml
  /-- The text is TOML but does not fit. -/
  | wrong (e : DecodeError)
deriving DecidableEq, Repr

/-- Why a file is no configuration. -/
inductive LoadError where
  | unreadable (path : Path) (e : FileError)
  | unparsable (path : Path) (e : ConfigTextError)
deriving DecidableEq, Repr

/-- The error in words. What is wrong with a text is shown over several lines, which are
not part of the message. -/
def LoadError.message : LoadError → String
  | .unreadable path e => "failed to read config file: " ++ path.shown ++ ": " ++ e.message
  | .unparsable path _ => "failed to parse config file: " ++ path.shown ++ ": <toml error>\n"

namespace Config

/-- The configuration that a text is. -/
def ofText (s : String) : Except ConfigTextError Config :=
  match Toml.parse s with
  | none => .error .notToml
  | some v => (decode .toml v).mapError .wrong

/-- Loads the configuration of a file. -/
def load (m : Machine) (p : Path) : Except LoadError Config := do
  let s ← (m.readText p).mapError (.unreadable p)
  (ofText s).mapError (.unparsable p)

/-- Loads the configuration of a file, or the default. -/
def loadOrDefault (m : Machine) (p : Path) : Config × List Event :=
  if m.pathExists p then
    match load m p with
    | .ok c => (c, [])
    | .error e => (default, [.loadFailed p.shown e.message])
  else (default, [])

/-- Loads the configuration of a project, with the tool settings of the user below its
own. -/
def loadLayered (m : Machine) (user project : Path) : Config × List Event :=
  let below :=
    if m.pathExists user then
      let u := loadOrDefault m user
      (u.1.metadata, u.2)
    else (.unset, [])
  let own := loadOrDefault m project
  ({ own.1 with metadata := own.1.metadata.layeredOver below.1 }, below.2 ++ own.2)

/-- The configuration file in a directory that holds one. -/
def fileIn (dir : Path) : Path := dir.join (.ofText "config.toml")

/-- The configuration file of a workspace. -/
def fileOf (workspaceRoot : Path) : Path := fileIn (workspaceRoot.join (.ofText ".trellis"))

end Config

end CrateGraph
