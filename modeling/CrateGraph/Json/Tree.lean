import CrateGraph.Json.Token
import CrateGraph.Table

/-!
# The tree of a JSON text

Tokens are read one at a time by a machine with a stack of the lists and tables that are
still open. A step never looks ahead, so a text is refused at the first token that cannot
continue it, and a text that stops while something is open has ended too early.

The entries of a table are sorted by key, and of two with one key the later one counts.
Lists and tables may be nested 127 deep.
-/

namespace CrateGraph.Json

/-- A list or table that is still open, with what it holds so far. -/
inductive Frame where
  /-- A list with its items, the last one first. -/
  | list (done : List Value)
  /-- A table between two entries. -/
  | table (done : List (String × Value))
  /-- A table that waits for the value of a key. -/
  | entry (done : List (String × Value)) (key : String)

/-- What the next token may be. -/
inductive Want where
  | value
  /-- A value, or the end of the list that was just opened. -/
  | firstItem
  | key
  /-- A key, or the end of the table that was just opened. -/
  | firstKey
  | colon
  /-- A comma, or the end of the innermost list or table. -/
  | separator
deriving DecidableEq

/-- How far a text was read. -/
inductive State where
  | reading (want : Want) (stack : List Frame)
  /-- The value of the whole text was read. -/
  | complete (v : Value)

/-- The number of lists and tables that may be open at once. -/
def deepest : Nat := 127

/-- Hands a value to the innermost list or table. -/
def deliver (v : Value) : List Frame → State
  | [] => .complete v
  | .list done :: stack => .reading .separator (.list (v :: done) :: stack)
  | .entry done key :: stack => .reading .separator (.table (insertEntry key v done) :: stack)
  | .table done :: stack => .reading .separator (.table done :: stack)

/-- Opens a list or table. -/
def push (frame : Frame) (want : Want) (stack : List Frame) : Except Error State :=
  if stack.length < deepest then .ok (.reading want (frame :: stack)) else .error .malformed

/-- Reads a token where a value may start. -/
def stepValue (stack : List Frame) : Token → Except Error State
  | .scalar v => .ok (deliver v stack)
  | .text s => .ok (deliver (.text s) stack)
  | .openList => push (.list []) .firstItem stack
  | .openTable => push (.table []) .firstKey stack
  | .fault _ e => .error e
  | _ => .error .malformed

/-- Reads a token where a key must stand. -/
def stepKey : List Frame → Token → Except Error State
  | .table done :: stack, .text key => .ok (.reading .colon (.entry done key :: stack))
  | _, .fault true e => .error e
  | _, _ => .error .malformed

/-- Reads a token after a value inside a list or table. -/
def stepSeparator : List Frame → Token → Except Error State
  | .list done :: stack, .comma => .ok (.reading .value (.list done :: stack))
  | .list done :: stack, .closeList => .ok (deliver (.list done.reverse) stack)
  | .table done :: stack, .comma => .ok (.reading .key (.table done :: stack))
  | .table done :: stack, .closeTable => .ok (deliver (.table done) stack)
  | _, _ => .error .malformed

/-- Reads a token. -/
def step : State → Token → Except Error State
  | .complete _, _ => .error .malformed
  | .reading .value stack, t => stepValue stack t
  | .reading .firstItem (.list [] :: stack), .closeList => .ok (deliver (.list []) stack)
  | .reading .firstItem stack, t => stepValue stack t
  | .reading .key stack, t => stepKey stack t
  | .reading .firstKey (.table [] :: stack), .closeTable => .ok (deliver (.table []) stack)
  | .reading .firstKey stack, t => stepKey stack t
  | .reading .colon stack, .colon => .ok (.reading .value stack)
  | .reading .colon _, _ => .error .malformed
  | .reading .separator stack, t => stepSeparator stack t

/-- The value of a text that was read to its end. -/
def State.result : State → Except Error Value
  | .complete v => .ok v
  | .reading _ _ => .error .ended

/-- The tree of the bytes of a JSON text. -/
def parse (bs : Bytes) : Except Error Value := do
  let state ← (tokens bs).foldlM step (.reading .value [])
  state.result

/-- The tree of a JSON text. -/
def parseText (s : String) : Except Error Value := parse (Text.toBytes s)

end CrateGraph.Json
