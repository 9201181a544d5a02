import CrateGraph.Json.Tree
import CrateGraph.Metadata.Document

/-!
# Reading the metadata of a workspace

The tool's output is read in three steps: the text as JSON, the version of its format, and
the document itself. A document of another version is refused as such before its shape is
looked at, since its shape may well have changed with the version.
-/

namespace CrateGraph.Metadata

/-- Why an output is not taken as the metadata of a workspace. -/
inductive Error where
  /-- The output is no JSON text. -/
  | json (e : Json.Error)
  /-- The document has another shape. -/
  | document (e : DecodeError)
  /-- The document says that it has another version. -/
  | version (found expected : Nat)
deriving DecidableEq, Repr

/-- The version that a document says it has, if it says so by a 64-bit number under the key
`version`. -/
def statedVersion? (v : Value) : Option Nat :=
  match v.entry? "version" with
  | some (.int n) => if 0 ≤ n ∧ n < wordLimit then some n.toNat else none
  | _ => none

/-- The workspace that a document describes. -/
def ofValue (expected : Nat) (v : Value) : Except Error Workspace :=
  let decoded := (document .json v).mapError .document
  match statedVersion? v with
  | none => decoded
  | some found => if found = expected then decoded else .error (.version found expected)

/-- The workspace that the output of the metadata tool describes. -/
def parse (bytes : Bytes) (expected : Nat) : Except Error Workspace := do
  let v ← (Json.parse bytes).mapError .json
  ofValue expected v

/-- The error in words. Where a text stops being JSON is not part of the message. -/
def Error.message : Error → String
  | .json _ => "malformed metadata: <json error>"
  | .document e => "malformed metadata: " ++ e.message .json
  | .version found expected =>
    "metadata format version " ++ toString found ++ " does not match requested version "
      ++ toString expected

end CrateGraph.Metadata
