import CrateGraph.Decimal.Shortest
import CrateGraph.Value

/-!
# Writing JSON

A tree is written on one line, or with each item and entry on a line of its own, indented
by two spaces for each list or table around it. Only a quote, a backslash and the control
characters are escaped in strings.
-/

namespace CrateGraph.Json

/-- A character inside a JSON string. -/
def escaped (c : Char) : List Char :=
  if c = '"' then ['\\', '"']
  else if c = '\\' then ['\\', '\\']
  else if c = '\n' then ['\\', 'n']
  else if c = '\r' then ['\\', 'r']
  else if c = '\t' then ['\\', 't']
  else if c = '\x08' then ['\\', 'b']
  else if c = '\x0c' then ['\\', 'f']
  else if c.toNat < 0x20 then
    ['\\', 'u', '0', '0', Nat.digitChar (c.toNat / 16), Nat.digitChar (c.toNat % 16)]
  else [c]

/-- A JSON string. -/
def string (s : String) : String := String.ofList ('"' :: s.toList.flatMap escaped ++ ['"'])

/-- A value that is neither a list nor a table. -/
def scalar : Value → String
  | .null => "null"
  | .bool b => if b then "true" else "false"
  | .int n => toString n
  | .real x => Decimal.Layout.scientific.render x
  | .text s => string s
  | .list _ => "[]"
  | .table _ => "\x7b\x7d"

mutual

/-- A tree on one line. -/
def compact : Value → String
  | .list (v :: items) => "[" ++ compact v ++ compactItems items ++ "]"
  | .table ((k, v) :: entries) =>
    "\x7b" ++ string k ++ ":" ++ compact v ++ compactEntries entries ++ "\x7d"
  | v => scalar v

/-- The items of a list after the first. -/
def compactItems : List Value → String
  | [] => ""
  | v :: items => "," ++ compact v ++ compactItems items

/-- The entries of a table after the first. -/
def compactEntries : List (String × Value) → String
  | [] => ""
  | (k, v) :: entries => "," ++ string k ++ ":" ++ compact v ++ compactEntries entries

end

/-- The start of a line inside so many lists and tables. -/
def newline (depth : Nat) : String := "\n" ++ String.ofList (List.replicate (2 * depth) ' ')

mutual

/-- A tree over several lines, inside so many lists and tables. -/
def indented (depth : Nat) : Value → String
  | .list (v :: items) =>
    "[" ++ newline (depth + 1) ++ indented (depth + 1) v ++ indentedItems (depth + 1) items
      ++ newline depth ++ "]"
  | .table ((k, v) :: entries) =>
    "\x7b" ++ newline (depth + 1) ++ string k ++ ": " ++ indented (depth + 1) v
      ++ indentedEntries (depth + 1) entries ++ newline depth ++ "\x7d"
  | v => scalar v

/-- The items of a list after the first. -/
def indentedItems (depth : Nat) : List Value → String
  | [] => ""
  | v :: items => "," ++ newline depth ++ indented depth v ++ indentedItems depth items

/-- The entries of a table after the first. -/
def indentedEntries (depth : Nat) : List (String × Value) → String
  | [] => ""
  | (k, v) :: entries =>
    "," ++ newline depth ++ string k ++ ": " ++ indented depth v ++ indentedEntries depth entries

end

/-- A document over several lines. -/
def pretty (v : Value) : String := indented 0 v

end CrateGraph.Json
