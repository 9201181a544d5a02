import CrateGraph.Config

/-!
# Consistent configurations

Before any graph is made, the parts of a configuration are checked against each other: the
names of projects must not clash, the triggers must name crates and projects that can be
what they say, and every pattern must be a pattern.

The checks are done in a fixed order and the first that fails is reported.
-/

namespace CrateGraph

/-- What is inconsistent in a configuration. -/
inductive ConfigError where
  | emptyPrefix
  | unknownOverride (package : String)
  | prefixedOverride (package name structuralPrefix : String)
  | duplicateName (name first second : String)
  | triggerNotExplicit (package : String)
  | projectCollision (project : String)
  | invalidGlob (pattern : String) (e : Glob.Error)
deriving DecidableEq, Repr

/-- The inconsistency in words. -/
def ConfigError.message : ConfigError → String
  | .emptyPrefix =>
    "graph.prefix must not be empty; structural names would collide with crate names"
  | .unknownOverride package =>
    "graph.names overrides `" ++ package ++ "`, which is not in graph.explicit"
  | .prefixedOverride package name structuralPrefix =>
    "project name `" ++ name ++ "` for `" ++ package ++ "` starts with the structural prefix `"
      ++ structuralPrefix ++ "`"
  | .duplicateName name first second =>
    "explicit crates `" ++ first ++ "` and `" ++ second ++ "` both map to project `" ++ name ++ "`"
  | .triggerNotExplicit package =>
    "triggers.native_crate `" ++ package ++ "` is not in graph.explicit"
  | .projectCollision project =>
    "trigger project `" ++ project ++ "` collides with another project name"
  | .invalidGlob pattern e => "invalid glob `" ++ pattern ++ "`: " ++ e.message

namespace Naming

/-- Whether a project name looks like that of a crate without targets. -/
def looksStructural (n : Naming) (project : String) : Bool :=
  Text.hasStart n.structuralPrefix project

/-- Checks the names that are given to crates, each by its crate. -/
def checkNames (n : Naming) : List (String × String) → Except ConfigError Unit
  | [] => .ok ()
  | (package, name) :: rest =>
    if !n.isExplicit package then .error (.unknownOverride package)
    else if n.looksStructural name then
      .error (.prefixedOverride package name n.structuralPrefix)
    else n.checkNames rest

/-- Checks that no two crates have the same project name. `owners` holds, for each project
name, the crates that had it so far, the last one first. -/
def checkOwners (n : Naming) (owners : List (String × String)) :
    List String → Except ConfigError Unit
  | [] => .ok ()
  | package :: rest =>
    let name := n.materializedName package
    match owners.lookup name with
    | none => n.checkOwners ((name, package) :: owners) rest
    | some first =>
      if first = package then n.checkOwners ((name, package) :: owners) rest
      else .error (.duplicateName name first package)

/-- Whether a project name is that of a crate with targets, or looks like that of one
without. -/
def isTaken (n : Naming) (project : String) : Bool :=
  n.explicit.any (fun package => n.materializedName package = project)
    || n.looksStructural project

end Naming

/-- Checks the crate and the projects that triggers name. -/
def Triggers.check (n : Naming) (t : Triggers) : Except ConfigError Unit :=
  if !n.isExplicit t.nativeCrate then .error (.triggerNotExplicit t.nativeCrate)
  else if n.isTaken t.bindingProject then .error (.projectCollision t.bindingProject)
  else if n.isTaken t.consumerProject then .error (.projectCollision t.consumerProject)
  else if t.bindingProject = t.consumerProject then
    .error (.projectCollision t.consumerProject)
  else .ok ()

namespace Config

/-- The patterns of the configuration in the order in which they are checked. -/
def globs (c : Config) : List String :=
  c.sources.included ++ c.sources.excluded ++ c.sources.manifests ++ c.targets.outputs
    ++ match c.triggers with
      | none => []
      | some t => t.bindingDir :: t.consumerInputs

/-- Checks patterns one by one. -/
def checkGlobs : List String → Except ConfigError Unit
  | [] => .ok ()
  | pattern :: rest =>
    match Glob.check (Glob.stripTokens pattern) with
    | .ok () => checkGlobs rest
    | .error e => .error (.invalidGlob pattern e)

/-- Checks the structural prefix. -/
def checkPrefix (n : Naming) : Except ConfigError Unit :=
  if n.structuralPrefix = "" then .error .emptyPrefix else .ok ()

/-- Checks the triggers, if there are any. -/
def checkTriggers (c : Config) : Except ConfigError Unit :=
  match c.triggers with
  | none => .ok ()
  | some t => t.check c.graph

/-- Checks a configuration. -/
def validate (c : Config) : Except ConfigError Unit := do
  checkPrefix c.graph
  c.graph.checkNames c.graph.names.entries
  c.graph.checkOwners [] c.graph.explicit
  c.checkTriggers
  checkGlobs c.globs

end Config

end CrateGraph
