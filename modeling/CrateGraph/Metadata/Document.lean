import CrateGraph.Decode
import CrateGraph.Package
import CrateGraph.Platform
import CrateGraph.SemVer

/-!
# The metadata document

The metadata tool describes a workspace in one JSON document. All of it is checked, so
that a document of another shape is not taken for a workspace, but only the names, the
manifests, the sources and the dependency names of its packages are kept.

A dependency is known by the name of the package it is on, never by a local rename.
-/

namespace CrateGraph.Metadata

open Decode Fields

/-- A path. -/
def path : Decoder Path := fun f v => (textAs "a UTF-8 path string" f v).map .ofText

/-- A version. -/
def version : Decoder SemVer.Version :=
  parsed "semver version" fun s => (SemVer.Version.parse s).mapError SemVer.Error.message

/-- A version requirement. -/
def requirement : Decoder SemVer.Requirement :=
  parsed "semver version" fun s => (SemVer.Requirement.parse s).mapError SemVer.Error.message

/-- A target platform. -/
def platform : Decoder Platform :=
  parsed "a string" fun s => (Platform.parse s).mapError Platform.Error.message

/-- The editions of the language. -/
def editions : List String := ["2015", "2018", "2021", "2024", "2027", "2030"]

/-- An edition. -/
def edition : Decoder String := variant (editions.map fun e => (e, e))

/-- The kind of a dependency: any name will do, and null stands for the normal kind. -/
def dependencyKind : Decoder (Option String) := option (variantOr (some "") [])

/-- A minimal toolchain version, which has no pre-release and no build part and may leave
out the patch number. -/
def toolchain (s : String) : Except String SemVer.Version :=
  match s.toList.find? fun c => c = '-' || c = '+' with
  | some '-' => .error "pre-release identifiers are not supported in rust-version"
  | some _ => .error "build metadata is not supported in rust-version"
  | none =>
    let full := if s.toList.count '.' = 1 then s ++ ".0" else s
    (SemVer.Version.parse full).mapError SemVer.Error.message

/-- A declared dependency, of which the name is kept. -/
def dependency : Decoder String := record "Dependency" <|
  required "name" text
    <* optional "source" text
    <* required "req" requirement
    <* required "kind" dependencyKind
    <* required "optional" bool
    <* required "uses_default_features" bool
    <* required "features" (list text)
    <* optional "target" platform
    <* optional "rename" text
    <* optional "registry" text
    <* optional "path" path

/-- A build target of a package. -/
def target : Decoder String := record "Target" <|
  required "name" text
    <* required "kind" (list text)
    <* defaulted "crate_types" (list text) []
    <* defaulted "required-features" (list text) []
    <* required "src_path" path
    <* defaulted "edition" edition "2015"
    <* defaulted "doctest" bool true
    <* defaulted "test" bool true
    <* defaulted "doc" bool true

/-- A package. -/
def package : Decoder Package := record "Package" <|
  (fun name source dependencies manifestPath =>
      { name, manifestPath, dependencies, source : Package })
    <$> required "name" text
    <* required "version" version
    <* defaulted "authors" (list text) []
    <* required "id" text
    <*> optional "source" text
    <* optional "description" text
    <*> required "dependencies" (list dependency)
    <* optional "license" text
    <* optional "license_file" path
    <* required "targets" (list target)
    <* required "features" (table (list text))
    <*> required "manifest_path" path
    <* defaulted "categories" (list text) []
    <* defaulted "keywords" (list text) []
    <* optional "readme" path
    <* optional "repository" text
    <* optional "homepage" text
    <* optional "documentation" text
    <* defaulted "edition" edition "2015"
    <* defaulted "metadata" any .null
    <* optional "links" text
    <* optional "publish" (list text)
    <* optional "default_run" text
    <* defaulted "rust_version" (option (parsed "a string" toolchain)) none

/-- How a resolved dependency is used. -/
def usage : Decoder (Option String) := record "DepKindInfo" <|
  required "kind" dependencyKind <* optional "target" platform

/-- A resolved dependency. -/
def link : Decoder String := record "NodeDep" <|
  required "name" text <* required "pkg" text <* defaulted "dep_kinds" (list usage) []

/-- A package with its resolved dependencies. -/
def resolvedNode : Decoder String := record "Node" <|
  required "id" text
    <* defaulted "deps" (list link) []
    <* required "dependencies" (list text)
    <* defaulted "features" (list text) []

/-- The resolved dependency graph. -/
def resolution : Decoder (List String) := record "Resolve" <|
  required "nodes" (list resolvedNode) <* optional "root" text

/-- The whole document. -/
def document : Decoder Workspace := record "Metadata" <|
  Workspace.mk
    <$> required "packages" (list package)
    <* required "workspace_members" (list text)
    <* optional "workspace_default_members" (list text)
    <* optional "resolve" resolution
    <* required "workspace_root" path
    <* required "target_directory" path
    <* defaulted "metadata" any .null
    <* required "version" (natural wordLimit "usize")

end CrateGraph.Metadata
