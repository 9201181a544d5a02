/-!
# What the program says about its work

Besides its results, the program tells what it did and what it had to do without. Each
thing that it may tell is an `Event`; operations return the events in the order in which
they happen, and the outer layer decides which to show.
-/

namespace CrateGraph

/-- How much an event matters. -/
inductive Level where
  | debug
  | info
  | warn
deriving DecidableEq, Repr

/-- Something that the program tells about its work. -/
inductive Event where
  /-- A package was left out of the graph since another one has its root. -/
  | sharedRoot (kept dropped root : String)
  /-- A node was added to the graph. -/
  | nodeAdded (materialized : Bool) (name root : String)
  /-- A name already leads to a project, and does not lead to another one as well. -/
  | aliasKept (name holder claimant : String)
  /-- A crate that is to get targets is not there. -/
  | explicitMissing (package : String)
  /-- The metadata of a workspace could not be had. -/
  | fetchFailed (source reason : String)
  /-- The metadata of a workspace was had. -/
  | fetched (source : String) (packages : Nat)
  /-- A command is about to be run in a directory. -/
  | running (command dir : String)
  /-- A configuration file is there but cannot be used. -/
  | loadFailed (path reason : String)
  /-- A manifest cannot be read, and so declares no workspace. -/
  | manifestIgnored (path : String)
  /-- The root that a command works on. -/
  | workspaceRoot (path : String)
  /-- The workspace has no packages. -/
  | nothingToDo
  /-- The graph of the workspace was made. -/
  | synchronized (projects materialized dependencies : Nat)
  /-- A file was written. -/
  | wrote (path : String)
deriving DecidableEq, Repr

namespace Event

/-- How much the event matters. -/
def level : Event → Level
  | .sharedRoot .. | .fetchFailed .. | .loadFailed .. => .warn
  | .nothingToDo | .synchronized .. | .wrote .. => .info
  | _ => .debug

/-- The event in words. -/
def message : Event → String
  | .sharedRoot kept dropped root =>
    "packages `" ++ kept ++ "` and `" ++ dropped ++ "` share root `" ++ root ++ "`; keeping `"
      ++ kept ++ "`"
  | .nodeAdded materialized name root =>
    (if materialized then "materialized" else "structural") ++ " node `" ++ name ++ "` at " ++ root
  | .aliasKept name holder claimant =>
    "alias `" ++ name ++ "` stays with `" ++ holder ++ "`, not `" ++ claimant ++ "`"
  | .explicitMissing package =>
    "explicit crate `" ++ package ++ "` is not in the workspace metadata"
  | .fetchFailed source reason =>
    "failed to get workspace metadata from " ++ source ++ ": " ++ reason
  | .fetched source packages => source ++ " reported " ++ toString packages ++ " packages"
  | .running command dir => "running `" ++ command ++ "` in " ++ dir
  | .loadFailed path reason => "Failed to load config from " ++ path ++ ": " ++ reason
  | .manifestIgnored path => "ignoring unparsable manifest " ++ path ++ ": <toml error>\n"
  | .workspaceRoot path => "workspace root: " ++ path
  | .nothingToDo => "no workspace packages found; nothing to synchronize"
  | .synchronized projects materialized dependencies =>
    "synchronized " ++ toString projects ++ " projects (" ++ toString materialized
      ++ " materialized), " ++ toString dependencies ++ " dependencies"
  | .wrote path => "wrote " ++ path

end Event

end CrateGraph
