import CrateGraph.Decimal.Shortest
import CrateGraph.Table
import CrateGraph.Text.Quoted
import CrateGraph.Value

/-!
# Decoding document trees

A decoder turns a tree into a value of the domain, or says what it met and what it
wanted. A record is written as a table with a key for each field, or as a list of its
fields in the order of their declaration; unknown keys are ignored.

Of several faults in a record the one that is met first is reported: the entries of a
table are visited in their order, and a field that is missing is noticed only after that.
`Fields` therefore reads all fields independently, and each fault carries the place where
it is met.
-/

namespace CrateGraph

/-- What a decoder met, as far as a message tells. -/
inductive Met where
  | null
  | bool (b : Bool)
  | int (n : Int)
  | real (x : Binary64)
  | text (s : String)
  | list
  | table
deriving DecidableEq, Repr

/-- What a tree shows of itself. -/
def Met.ofValue : Value → Met
  | .null => .null
  | .bool b => .bool b
  | .int n => .int n
  | .real x => .real x
  | .text s => .text s
  | .list _ => .list
  | .table _ => .table

/-- Why a tree does not decode. -/
inductive DecodeError where
  | wrongType (met : Met) (wanted : String)
  | wrongValue (met : Met) (wanted : String)
  | missingField (name : String)
  | unknownVariant (name : String) (known : List String)
  | wrongLength (length : Nat) (wanted : String)
  /-- A text that its own grammar refuses. -/
  | refused (reason : String)
deriving DecidableEq, Repr

/-- How the text format that a tree was read from is decoded. -/
structure Format where
  /-- Whether a record written as a list may not be longer than the record. -/
  exactLength : Bool
  /-- How a message writes a double. -/
  reals : Decimal.Layout

/-- Trees of JSON texts. -/
def Format.json : Format := ⟨true, .scientific⟩

/-- Trees of TOML texts. -/
def Format.toml : Format := ⟨false, .plain⟩

/-- What was met, in words. -/
def Met.describe (f : Format) : Met → String
  | .null => "null"
  | .bool b => "boolean `" ++ (if b then "true" else "false") ++ "`"
  | .int n => "integer `" ++ toString n ++ "`"
  | .real x => "floating point `" ++ f.reals.render x ++ "`"
  | .text s => "string " ++ Text.quoted s
  | .list => "sequence"
  | .table => "map"

/-- The names that a variant may have, in words. -/
def variantNames (known : List String) : String :=
  match known with
  | [only] => "`" ++ only ++ "`"
  | known => "one of " ++ Text.join ", " (known.map fun k => "`" ++ k ++ "`")

/-- The error in words. -/
def DecodeError.message (f : Format) : DecodeError → String
  | .wrongType met wanted => "invalid type: " ++ met.describe f ++ ", expected " ++ wanted
  | .wrongValue met wanted => "invalid value: " ++ met.describe f ++ ", expected " ++ wanted
  | .missingField name => "missing field `" ++ name ++ "`"
  | .unknownVariant name known =>
    "unknown variant `" ++ name ++ "`, expected " ++ variantNames known
  | .wrongLength n wanted => "invalid length " ++ toString n ++ ", expected " ++ wanted
  | .refused reason => reason

/-- Turns trees of a format into values. -/
abbrev Decoder (α : Type) := Format → Value → Except DecodeError α

namespace Decode

/-- The error for a tree of another kind than the one wanted. -/
def mismatch (v : Value) (wanted : String) : Except DecodeError α :=
  .error (.wrongType (.ofValue v) wanted)

/-- A text, wanted under a name of its own. -/
def textAs (wanted : String) : Decoder String := fun _ v =>
  match v with
  | .text s => .ok s
  | v => mismatch v wanted

/-- A text. -/
def text : Decoder String := textAs "a string"

/-- A text that a grammar of its own reads further. -/
def parsed (wanted : String) (read : String → Except String α) : Decoder α := fun f v => do
  let s ← textAs wanted f v
  (read s).mapError .refused

/-- A truth value. -/
def bool : Decoder Bool := fun _ v =>
  match v with
  | .bool b => .ok b
  | v => mismatch v "a boolean"

/-- A natural number below a limit. -/
def natural (limit : Nat) (wanted : String) : Decoder Nat := fun _ v =>
  match v with
  | .int n =>
    if 0 ≤ n ∧ n < limit then .ok n.toNat else .error (.wrongValue (.int n) wanted)
  | v => mismatch v wanted

/-- Any tree. -/
def any : Decoder Value := fun _ v => .ok v

/-- A value that may be null. -/
def option (d : Decoder α) : Decoder (Option α) := fun f v =>
  match v with
  | .null => .ok none
  | v => (d f v).map some

/-- A list of values. -/
def list (d : Decoder α) : Decoder (List α) := fun f v =>
  match v with
  | .list items => items.mapM (d f)
  | v => mismatch v "a sequence"

/-- A table of values. -/
def table (d : Decoder α) : Decoder (Table α) := fun f v =>
  match v with
  | .table entries =>
    (entries.mapM fun e => (d f e.2).map (e.1, ·)).map Table.ofList
  | v => mismatch v "a map"

/-- Null, which stands for a value that holds nothing. -/
def unit : Decoder Unit := fun _ v =>
  match v with
  | .null => .ok ()
  | v => mismatch v "unit"

/-- A name out of a fixed choice, alone or as the only key of a table that gives it
nothing. Names that are not known may be let through as `other`. -/
def variantOr (other : Option α) (known : List (String × α)) : Decoder α := fun f v =>
  let named := fun name =>
    match known.lookup name, other with
    | some a, _ => .ok a
    | none, some a => .ok a
    | none, none => .error (DecodeError.unknownVariant name (known.map (·.1)))
  match v with
  | .text name => named name
  | .table [(name, content)] => do
    let a ← named name
    unit f content
    return a
  | .table _ => .error (.wrongValue .table "map with a single key")
  | v => mismatch v "string or map"

/-- A name out of a fixed choice. -/
def variant (known : List (String × α)) : Decoder α := variantOr none known

end Decode

/-- A record as it is written. -/
inductive Record where
  | table (entries : List (String × Value))
  | list (items : List Value)

/-- A record that is being read. -/
structure Reading where
  format : Format
  record : Record
  /-- What a list that is too short should have been. -/
  wanted : String

/-- The place of a fault among the entries of its record, and the fault. -/
abbrev Fault := Nat × DecodeError

/-- The results of two parts of a record; of two faults the one that is met first. -/
def meet (x : Except Fault (α → β)) (y : Except Fault α) : Except Fault β :=
  match x, y with
  | .ok f, .ok a => .ok (f a)
  | .ok _, .error e => .error e
  | .error e, .ok _ => .error e
  | .error e, .error e' => .error (if e'.1 < e.1 then e' else e)

/-- Reads some of the fields of a record, given the number of fields before them. -/
structure Fields (α : Type) where
  count : Nat
  read : Nat → Reading → Except Fault α

namespace Fields

instance : Applicative Fields where
  pure a := ⟨0, fun _ _ => .ok a⟩
  seq f x :=
    ⟨f.count + (x ()).count, fun n r => meet (f.read n r) ((x ()).read (n + f.count) r)⟩

/-- The entry with a key and its place. -/
def findEntry (key : String) : Nat → List (String × Value) → Option (Nat × Value)
  | _, [] => none
  | n, (k, v) :: rest => if k = key then some (n, v) else findEntry key (n + 1) rest

/-- A field with what stands for it where it is missing in a table and in a list. -/
def field (name : String) (d : Decoder α) (absent short : Option α) : Fields α where
  count := 1
  read n r :=
    match r.record with
    | .table entries =>
      match findEntry name 0 entries, absent with
      | some (place, v), _ => (d r.format v).mapError (place, ·)
      | none, some a => .ok a
      | none, none => .error (entries.length, .missingField name)
    | .list items =>
      match items[n]?, short with
      | some v, _ => (d r.format v).mapError (n, ·)
      | none, some a => .ok a
      | none, none => .error (n, .wrongLength n r.wanted)

/-- A field that must be there. -/
def required (name : String) (d : Decoder α) : Fields α := field name d none none

/-- A field that may be missing in a table or null. -/
def optional (name : String) (d : Decoder α) : Fields (Option α) :=
  field name (Decode.option d) (some none) none

/-- A field with a default. -/
def defaulted (name : String) (d : Decoder α) (default : α) : Fields α :=
  field name d (some default) (some default)

end Fields

namespace Decode

/-- A record of a given name with its fields. -/
def record (name : String) (fields : Fields α) : Decoder α := fun f v =>
  let wanted := "struct " ++ name ++ " with " ++ toString fields.count ++ " elements"
  match v with
  | .table entries => (fields.read 0 ⟨f, .table entries, wanted⟩).mapError (·.2)
  | .list items => do
    let a ← (fields.read 0 ⟨f, .list items, wanted⟩).mapError (·.2)
    if f.exactLength && fields.count < items.length then
      throw (.wrongLength items.length "fewer elements in array")
    return a
  | v => mismatch v ("struct " ++ name)

end Decode

end CrateGraph
