import CrateGraph.Shell.Expansion
import CrateGraph.Shell.Lookup

/-!
# Redirections

A command may have its streams lead elsewhere: to files, to other streams, or to a text in
the script. All targets are found out first, and then the streams are opened one after the
other. If one of them cannot be opened, the command is not run.
-/

namespace CrateGraph.Shell

/-- A redirection of a stream whose target is known. -/
inductive Target where
  | file (fd : Nat) (kind : RedirectKind) (path : String)
  /-- The stream becomes the same as another one, or is closed. -/
  | copy (fd : Nat) (source : Option Nat)
  | document (fd id : Nat)

namespace Target

/-- The stream that is redirected. -/
def fd : Target → Nat
  | file fd _ _ | copy fd _ | document fd _ => fd

end Target

/-- The numbers of the streams that the shell uses for itself. -/
def ownStreams : Nat := 100

/-- Finds out where streams are to lead, after those of which that is known already, the
last one first. -/
def findTargets (run : Runner) : List Target → List Redirect → Work (List Target)
  | found, [] => return found.reverse
  | found, .to fd kind w :: rest => do
    let target ← match kind with
      | .document id => pure (Target.document fd id)
      | .copy => do
        let text ← expandText run w
        match text.toList with
        | ['-'] => pure (.copy fd none)
        | [c] =>
          if c.isDigit then pure (.copy fd (some (numberOf 10 [c])))
          else refuse "Syntax error: Bad fd number"
        | _ => refuse "Syntax error: Bad fd number"
      | kind => do pure (.file fd kind (← expandText run w))
    findTargets run (target :: found) rest

/-- How a file is opened for a redirection, given whether files are protected. -/
def openingOf (protected? : Bool) : RedirectKind → Opening
  | .read => .read
  | .append => .append
  | .readWrite => .update
  | .write => if protected? then .create else .write
  | _ => .write

/-- Opens a file for a redirection. -/
def openFile (fd : Nat) (kind : RedirectKind) (path : String) : Work Unit := do
  let s ← get
  let t ← System.tree
  let isFile := match t.stat s.cwd (pathOf path) with
    | .ok (.file _ _) => true
    | .ok (.program _) => true
    | _ => false
  let isThere := t.pathExists s.cwd (pathOf path)
  let opening := if isThere && !isFile then openingOf false kind else openingOf (s.has 'C') kind
  match ← openPath fd path opening with
  | .ok () => return ()
  | .error e =>
    if kind = .read then refuse ("cannot open " ++ path ++ ": " ++ reasonFor "No such file" e)
    else refuse ("cannot create " ++ path ++ ": " ++ reasonFor "Directory nonexistent" e)

/-- Has a stream lead to its target. -/
def redirectTo (run : Runner) : Target → Work Unit
  | .file fd kind path => openFile fd kind path
  | .copy fd none => System.detach fd
  | .copy fd (some source) => do
    if fd ≠ source then
      if !(← System.duplicate fd source) then
        refuse (toString source ++ ": " ++ FileError.badStream.reason.1)
  | .document fd id => do
    let text ← expandDocument run (((← get).documents.lookup id).getD [])
    System.pipe ownStreams (ownStreams + 1)
    let _ ← tell (ownStreams + 1) text
    let _ ← System.duplicate fd ownStreams
    System.detach ownStreams
    System.detach (ownStreams + 1)

/-- Has streams lead to their targets; the result is whether that was possible. -/
def redirectAll (run : Runner) (targets : List Target) : Work Bool := do
  try
    for target in targets do
      redirectTo run target
    return true
  catch
    | .wrong => return false
    | stop => throw stop

end CrateGraph.Shell
