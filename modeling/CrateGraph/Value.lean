import CrateGraph.Decimal.Binary64
import CrateGraph.Table

/-!
# Document trees

A `Value` is what a JSON or a TOML text holds once its notation is taken away. A table is
kept as the list of its entries, in the order in which they are to be visited or written:
a JSON reader sorts them by key, a TOML reader keeps the order of the text, and a writer
puts the fields of a record in the order of their declaration.
-/

namespace CrateGraph

/-- The first natural number that does not fit into 64 bits. -/
def wordLimit : Nat := 18446744073709551616

/-- The tree of a document. -/
inductive Value where
  | null
  | bool (b : Bool)
  | int (n : Int)
  | real (x : Binary64)
  | text (s : String)
  | list (items : List Value)
  | table (entries : List (String × Value))
deriving Repr, Inhabited

namespace Value

mutual

/-- Equality of trees is decided node by node. -/
def decEq : (a b : Value) → Decidable (a = b)
  | .null, .null => isTrue rfl
  | .bool a, .bool b => decidable_of_iff (a = b) (by simp)
  | .int a, .int b => decidable_of_iff (a = b) (by simp)
  | .real a, .real b => decidable_of_iff (a = b) (by simp)
  | .text a, .text b => decidable_of_iff (a = b) (by simp)
  | .list a, .list b =>
    match decEqItems a b with
    | isTrue h => isTrue (by rw [h])
    | isFalse h => isFalse (by simpa using h)
  | .table a, .table b =>
    match decEqEntries a b with
    | isTrue h => isTrue (by rw [h])
    | isFalse h => isFalse (by simpa using h)
  | .null, .bool _ | .null, .int _ | .null, .real _ | .null, .text _ | .null, .list _
  | .null, .table _ => isFalse (by simp)
  | .bool _, .null | .bool _, .int _ | .bool _, .real _ | .bool _, .text _ | .bool _, .list _
  | .bool _, .table _ => isFalse (by simp)
  | .int _, .null | .int _, .bool _ | .int _, .real _ | .int _, .text _ | .int _, .list _
  | .int _, .table _ => isFalse (by simp)
  | .real _, .null | .real _, .bool _ | .real _, .int _ | .real _, .text _ | .real _, .list _
  | .real _, .table _ => isFalse (by simp)
  | .text _, .null | .text _, .bool _ | .text _, .int _ | .text _, .real _ | .text _, .list _
  | .text _, .table _ => isFalse (by simp)
  | .list _, .null | .list _, .bool _ | .list _, .int _ | .list _, .real _ | .list _, .text _
  | .list _, .table _ => isFalse (by simp)
  | .table _, .null | .table _, .bool _ | .table _, .int _ | .table _, .real _
  | .table _, .text _ | .table _, .list _ => isFalse (by simp)

/-- Equality of the items of two lists. -/
def decEqItems : (a b : List Value) → Decidable (a = b)
  | [], [] => isTrue rfl
  | [], _ :: _ => isFalse (by simp)
  | _ :: _, [] => isFalse (by simp)
  | x :: xs, y :: ys =>
    match decEq x y, decEqItems xs ys with
    | isTrue h, isTrue h' => isTrue (by rw [h, h'])
    | isFalse h, _ => isFalse (by simp [h])
    | _, isFalse h' => isFalse (by simp [h'])

/-- Equality of the entries of two tables. -/
def decEqEntries : (a b : List (String × Value)) → Decidable (a = b)
  | [], [] => isTrue rfl
  | [], _ :: _ => isFalse (by simp)
  | _ :: _, [] => isFalse (by simp)
  | (k, x) :: xs, (k', y) :: ys =>
    match decEq x y, decEqEntries xs ys with
    | isTrue h, isTrue h' =>
      if hk : k = k' then isTrue (by rw [h, h', hk]) else isFalse (by simp [hk])
    | isFalse h, _ => isFalse (by simp [h])
    | _, isFalse h' => isFalse (by simp [h'])

end

instance : DecidableEq Value := decEq

/-- The value of an entry of a table; none in any other value. -/
def entry? (v : Value) (key : String) : Option Value :=
  match v with
  | .table entries => entries.lookup key
  | _ => none

/-- A list of texts. -/
def ofTexts (l : List String) : Value := .list (l.map .text)

/-- A table of values that have trees. -/
def ofTable (f : α → Value) (t : Table α) : Value :=
  .table (t.entries.map fun e => (e.1, f e.2))

/-- An entry that is left out when a condition does not hold. -/
def entryIf (present : Bool) (key : String) (v : Value) : List (String × Value) :=
  if present then [(key, v)] else []

/-- A value that may be absent, written as null. -/
def ofOption (f : α → Value) : Option α → Value
  | none => .null
  | some a => f a

end Value

end CrateGraph
