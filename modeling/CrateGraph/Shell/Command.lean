import CrateGraph.Text.Basic

/-!
# Shell commands

A script of the shell is made of commands: simple commands with their redirections, joined
by sequence, conditions, pipes, groups, choices and loops. The words of a command are lists
of pieces, which stand for themselves or for something that is known only when the command
runs: the value of a parameter, the output of another command, or a number.
-/

namespace CrateGraph.Shell

/-- What is done with the value of a parameter. -/
inductive Use where
  | value
  | length
  /-- A word stands for the value if there is none. -/
  | orElse
  /-- The parameter gets a value if it has none. -/
  | orAssign
  /-- The shell ends if there is no value. -/
  | orFail
  /-- A word stands for the value if there is one. -/
  | ifSet
  /-- A part of the value that is like a pattern is left out, at its end or its start. -/
  | trim (atEnd longest : Bool)
  /-- Something that the shell does not know. -/
  | unknown
deriving DecidableEq, Repr

/-- What is done to a stream. -/
inductive RedirectKind where
  | read
  | write
  /-- The stream writes to a file even where files are protected. -/
  | overwrite
  | append
  | readWrite
  /-- The stream becomes the same as another one, or is closed. -/
  | copy
  /-- The stream reads a text that is given in the script, known by its number. -/
  | document (id : Nat)
deriving DecidableEq, Repr

mutual

/-- A part of a word. -/
inductive Piece where
  /-- A character that may have a special meaning, as in a pattern. -/
  | char (c : Char)
  /-- A character that stands for itself. -/
  | literal (c : Char)
  /-- The start or the end of a quotation. -/
  | mark
  /-- A parameter. Where a word is used in place of its value, being empty may count as
  having no value. -/
  | param (name : String) (use : Use) (emptyToo : Bool) (word : List Piece) (quoted : Bool)
  /-- The output of a command. -/
  | output (body : Option Command) (quoted : Bool)
  /-- The value of an expression. -/
  | number (expression : List Piece) (quoted : Bool)

/-- A redirection of a stream. -/
inductive Redirect where
  | to (fd : Nat) (kind : RedirectKind) (target : List Piece)

/-- A command. Where a line is given, it is the one that the shell names if something is
wrong. -/
inductive Command where
  | simple (line : Nat) (assignments : List (String × List Piece)) (words : List (List Piece))
    (redirects : List Redirect)
  /-- A command with redirections of its own. -/
  | redirected (line : Nat) (body : Option Command) (redirects : List Redirect)
  /-- A command in a shell of its own. -/
  | apart (line : Nat) (body : Option Command) (redirects : List Redirect)
  /-- A command that is not waited for. -/
  | background (line : Nat) (body : Option Command) (redirects : List Redirect)
  /-- Commands of which each reads what the one before writes. -/
  | pipeline (parts : List Command) (background : Bool)
  | sequence (first second : Command)
  | both (first second : Command)
  | either (first second : Command)
  | negate (c : Command)
  | choose (test yes no : Option Command)
  /-- A loop that goes on while its test succeeds, or until it does. -/
  | loop (untilTrue : Bool) (test body : Option Command)
  | forEach (line : Nat) (name : String) (words : List (List Piece)) (body : Option Command)
  /-- A choice by the first of some patterns that a word is like. -/
  | select (line : Nat) (word : List Piece) (arms : List (List (List Piece) × Option Command))
  | define (line : Nat) (name : String) (body : Command)

end

/-- A word before its expansions. -/
abbrev Word := List Piece

namespace Word

/-- The text of a word in which nothing is quoted or stands for something else. -/
def plain? : Word → Option String
  | [] => some ""
  | .char c :: rest => (plain? rest).map (c.toString ++ ·)
  | _ => none

/-- Whether something in a word is quoted. -/
def isQuoted (w : Word) : Bool :=
  w.any fun
    | .literal _ | .mark => true
    | _ => false

/-- The text of a word whatever its quotes. -/
def unquoted (w : Word) : List Char :=
  w.filterMap fun
    | .char c | .literal c => some c
    | _ => none

/-- The word that stands for all arguments. -/
def allArguments : Word := [.mark, .param "@" .value false [] true, .mark]

end Word

/-- Whether a character can begin a name. -/
def isNameStart (c : Char) : Bool := c.isAlpha || c = '_'

/-- Whether a character can be part of a name. -/
def isNameChar (c : Char) : Bool := c.isAlphanum || c = '_'

/-- Whether a text is a name. -/
def isName (s : String) : Bool :=
  match s.toList with
  | c :: cs => isNameStart c && cs.all isNameChar
  | [] => false

/-- The name and the value of an assignment, if a word is one. -/
def Word.assignment? (w : Word) : Option (String × Word) :=
  let isOfName := fun
    | Piece.char c => isNameChar c
    | _ => false
  let name := String.ofList (Word.unquoted (w.takeWhile isOfName))
  match w.dropWhile isOfName with
  | .char '=' :: value => if isName name then some (name, value) else none
  | _ => none

/-- The commands of the shell whose errors end it. Assignments before them remain. -/
def specialNames : List String :=
  [".", ":", "break", "continue", "eval", "exec", "exit", "export", "readonly", "return",
    "set", "shift", "times", "trap", "unset"]

end CrateGraph.Shell
