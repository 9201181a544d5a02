import CrateGraph.Text.Basic

/-!
# Glob patterns

A pattern is a path in which `?` stands for a character, `*` for any run of characters
without a slash, `**` for any run of whole path components, and `[...]` for one of a
class of characters. The orchestrator allows a pattern to be negated by a `!` in front and
to start with a token for the workspace root or for the root of a project; neither is part
of the pattern that is checked.

Only validity is decided here; the orchestrator does the matching.
-/

namespace CrateGraph.Glob

/-- Stands for the root of the workspace. -/
def workspaceRoot : String := "\x7bworkspaceRoot\x7d"

/-- Stands for the root of the project that owns the pattern. -/
def projectRoot : String := "\x7bprojectRoot\x7d"

/-- The pattern that takes away what the given one matches. -/
def negate (pattern : String) : String := "!" ++ pattern

/-- What is left of a text without a given start, or the text. -/
def without (start s : String) : String := (Text.stripStart? start s).getD s

/-- The pattern without a negation, and without a token and the slash after it. -/
def stripTokens (pattern : String) : String :=
  let pattern := without "!" pattern
  match Text.stripStart? workspaceRoot pattern with
  | some rest => without "/" rest
  | none =>
    match Text.stripStart? projectRoot pattern with
    | some rest => without "/" rest
    | none => pattern

/-- Why a text is no pattern. -/
inductive Fault where
  /-- Three or more `*` in a row. -/
  | wildcards
  /-- A `**` that is not a whole path component. -/
  | recursiveWildcards
  /-- A class that is empty or does not end. -/
  | range
deriving DecidableEq, Repr

/-- A fault and the number of characters before it. -/
structure Error where
  position : Nat
  fault : Fault
deriving DecidableEq, Repr

/-- The fault in words. -/
def Fault.message : Fault → String
  | .wildcards => "wildcards are either regular `*` or recursive `**`"
  | .recursiveWildcards => "recursive wildcards must form a single path component"
  | .range => "invalid range pattern"

/-- The error in words. -/
def Error.message (e : Error) : String :=
  "Pattern syntax error near position " ++ toString e.position ++ ": " ++ e.fault.message

/-- Where a reader of a pattern stands. -/
inductive Place where
  /-- At the start of a path component. -/
  | fresh
  /-- Inside a path component. -/
  | inside
  /-- Inside a class that was opened at the given position. -/
  | inClass (opened : Nat)
deriving DecidableEq, Repr

/-- Reads a pattern from a place, with the number of characters before it. The first
character of a class is part of it even when it is a `]`. -/
def scan : Place → Nat → List Char → Except Error Unit
  | .inClass opened, _, [] => .error ⟨opened, .range⟩
  | .inClass opened, n, c :: rest =>
    if c = ']' then scan .inside (n + 1) rest else scan (.inClass opened) (n + 1) rest
  | _, _, [] => .ok ()
  | _, n, '*' :: '*' :: '*' :: _ => .error ⟨n + 2, .wildcards⟩
  | .inside, n, '*' :: '*' :: _ => .error ⟨n - 1, .recursiveWildcards⟩
  | .fresh, _, ['*', '*'] => .ok ()
  | .fresh, n, '*' :: '*' :: c :: rest =>
    if c = '/' then scan .fresh (n + 3) rest else .error ⟨n + 2, .recursiveWildcards⟩
  | _, n, '[' :: '!' :: _ :: rest => scan (.inClass n) (n + 3) rest
  | _, n, ['[', '!'] => .error ⟨n, .range⟩
  | _, n, '[' :: _ :: rest => scan (.inClass n) (n + 2) rest
  | _, n, ['['] => .error ⟨n, .range⟩
  | _, n, c :: rest => scan (if c = '/' then .fresh else .inside) (n + 1) rest

/-- Checks a pattern without negation and token. -/
def check (pattern : String) : Except Error Unit := scan .fresh 0 pattern.toList

/-- Whether a pattern is valid once its negation and token are stripped. -/
def Valid (pattern : String) : Prop := check (stripTokens pattern) = .ok ()

instance (pattern : String) : Decidable (Valid pattern) :=
  match h : check (stripTokens pattern) with
  | .ok () => isTrue h
  | .error _ => isFalse fun hv => by rw [Valid, h] at hv; cases hv

end CrateGraph.Glob
