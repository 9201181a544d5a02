import CrateGraph.Decode

/-!
# Edges of the project graph

An edge leads from a project to one that it depends on, and names the manifest that says
so.
-/

namespace CrateGraph

/-- How a project depends on another. What a manifest declares is always static. -/
inductive EdgeKind where
  | static
deriving DecidableEq, Repr

/-- A dependency between two projects. -/
structure Edge where
  /-- The name of the project that depends. -/
  source : String
  /-- The name of the project it depends on. -/
  target : String
  kind : EdgeKind
  /-- The manifest that declares the dependency, from the workspace root. -/
  sourceFile : String
deriving DecidableEq, Repr

namespace EdgeKind

/-- The kind in words. -/
def name : EdgeKind → String
  | .static => "static"

/-- The kind as a tree. -/
def encode (k : EdgeKind) : Value := .text k.name

/-- Decodes a kind. -/
def decode : Decoder EdgeKind := Decode.variant [("static", .static)]

end EdgeKind

namespace Edge

/-- The edge in words. -/
def display (e : Edge) : String := e.source ++ " -> " ++ e.target ++ " (" ++ e.sourceFile ++ ")"

/-- The edge as a tree. -/
def encode (e : Edge) : Value :=
  .table [("source", .text e.source), ("target", .text e.target), ("type", e.kind.encode),
    ("sourceFile", .text e.sourceFile)]

/-- Decodes an edge. -/
def decode : Decoder Edge := Decode.record "DependencyEdge" <|
  Edge.mk
    <$> .required "source" Decode.text
    <*> .required "target" Decode.text
    <*> .required "type" EdgeKind.decode
    <*> .required "sourceFile" Decode.text

end Edge

end CrateGraph
