import CrateGraph.Decode
import CrateGraph.Machine.System

/-!
# Snapshots of machines

A machine can be described by a document: its working directory, its home directory, the
search path, and the files that it has besides those of every system. What is left out is
the root directory, and the search path of every system.
-/

namespace CrateGraph.Machine

/-- What is at a path in a document: a directory, a link, or a file. -/
def nodeOf (dir : Bool) (mode : Mode) (link : Option String) (contents : String) : FileNode :=
  if dir then .dir
  else match link with
    | some target => .link (.ofText target)
    | none => .file (Text.toBytes contents) mode

/-- Decodes what is at a path. -/
def decodeEntry : Decoder (Path × FileNode) := Decode.record "entry" <|
  (fun path dir readable writable executable link contents =>
      (.ofText path, nodeOf dir ⟨readable, writable, executable⟩ link contents))
    <$> .required "path" Decode.text
    <*> .defaulted "dir" Decode.bool false
    <*> .defaulted "read" Decode.bool true
    <*> .defaulted "write" Decode.bool true
    <*> .defaulted "exec" Decode.bool false
    <*> .defaulted "link" (Decode.option Decode.text) none
    <*> .defaulted "text" Decode.text ""

/-- The machine with some files. Its working directory is made if it is not there. -/
def ofFiles (cwd home : Path) (searchPath : List Path) (files : List (Path × FileNode)) :
    Machine :=
  let tree := (files.foldl (fun t f => t.plant f.1 f.2) FileTree.system).plant cwd .dir
  ⟨tree, (tree.locate [] cwd).toOption.getD [], home, searchPath⟩

/-- Decodes a machine. -/
def decode : Decoder Machine := Decode.record "machine" <|
  (fun cwd home searchPath files =>
    ofFiles (.ofText cwd) (.ofText home) (searchPath.map .ofText) files)
    <$> .defaulted "cwd" Decode.text "/"
    <*> .defaulted "home" Decode.text "/"
    <*> .defaulted "path" (Decode.list Decode.text) (systemPath.map (·.shown))
    <*> .defaulted "files" (Decode.list decodeEntry) []

end CrateGraph.Machine
