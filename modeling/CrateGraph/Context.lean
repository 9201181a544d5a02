import CrateGraph.Config.Load

/-!
# Where a command works

A command works on a workspace. Its root may be given; otherwise it is the nearest
directory from the working directory upward whose manifest declares a workspace, and the
working directory itself if there is none. The configuration files follow from that.
-/

namespace CrateGraph

/-- Where a command works. -/
structure Context where
  cwd : Path
  /-- The directory of the user's own configuration. -/
  home : Path
  /-- The root of the workspace, if it was given. -/
  pinned : Option Path
deriving DecidableEq, Repr

namespace Context

/-- The context of a working directory. -/
def ofCwd (m : Machine) (cwd : Path) : Context := ⟨cwd, m.home.join (.ofText ".trellis"), none⟩

/-- The context with a given root. -/
def pin (c : Context) (root : Path) : Context :=
  { c with pinned := some (if root.isAbsolute then root else c.cwd.join root) }

/-- The user's configuration file. -/
def userConfig (c : Context) : Path := Config.fileIn c.home

/-- The tree of a manifest. What it holds may be of any kind, as long as it is TOML. -/
def manifestTree? (s : String) : Option Value := (Toml.parse s).filter Toml.isAnyTable

/-- Whether a manifest declares a workspace. One that is there and is not TOML does not, and
is told of. -/
def declaresWorkspace (m : Machine) (manifest : Path) : Bool × List Event :=
  match m.readText manifest with
  | .error _ => (false, [])
  | .ok s =>
    match manifestTree? s with
    | none => (false, [.manifestIgnored manifest.shown])
    | some v => ((v.entry? "workspace").isSome, [])

/-- The first of some directories whose manifest declares a workspace. -/
def findRootAmong (m : Machine) : List Path → Option Path × List Event
  | [] => (none, [])
  | dir :: dirs =>
    let d := declaresWorkspace m (dir.join (.ofText "Cargo.toml"))
    if d.1 then (some dir, d.2)
    else (findRootAmong m dirs).map id (d.2 ++ ·)

/-- The nearest directory, from the working directory upward, whose manifest declares a
workspace. -/
def findRoot (m : Machine) (c : Context) : Option Path × List Event :=
  findRootAmong m c.cwd.ancestors

/-- The root of the workspace. -/
def workspaceRoot (m : Machine) (c : Context) : Path × List Event :=
  match c.pinned with
  | some root => (root, [])
  | none => (findRoot m c).map (·.getD c.cwd) id

/-- The configuration file of the workspace. -/
def projectConfig (m : Machine) (c : Context) : Path × List Event :=
  (workspaceRoot m c).map Config.fileOf id

/-- The configuration of the workspace. -/
def loadConfig (m : Machine) (c : Context) : Config × List Event :=
  let file := projectConfig m c
  (Config.loadLayered m c.userConfig file.1).map id (file.2 ++ ·)

end Context

end CrateGraph
