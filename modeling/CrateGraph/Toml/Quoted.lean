import CrateGraph.Text.Basic

/-!
# Strings in TOML

A string is basic, with escapes, or literal, without, and either kind may run over several
lines. Each is read one character at a time by a machine whose mode says what the
characters before mean for the next one. Line ends are line feeds here.
-/

namespace CrateGraph.Toml

/-- Whether a character may stand for itself in a string or a comment: a tab, or anything
that is no control character of ASCII. -/
def isPlain (c : Char) : Bool := c = '\t' || (0x20 ≤ c.toNat && c.toNat ≠ 0x7f)

/-- Whether a character is white space inside a line. -/
def isGap (c : Char) : Bool := c = ' ' || c = '\t'

/-- The value of a hexadecimal digit. -/
def hexDigit? (c : Char) : Option Nat :=
  if c.isDigit then some (c.toNat - 0x30)
  else if 'a' ≤ c && c ≤ 'f' then some (c.toNat - 0x57)
  else if 'A' ≤ c && c ≤ 'F' then some (c.toNat - 0x37)
  else none

/-- The character with a number, unless the number is that of half a character. -/
def scalar? (n : Nat) : Option Char := if n.isValidChar then some (Char.ofNat n) else none

/-- The character that a letter stands for after a backslash. -/
def escape? (c : Char) : Option Char :=
  if c = 'b' then some '\x08'
  else if c = 't' then some '\t'
  else if c = 'n' then some '\n'
  else if c = 'f' then some '\x0c'
  else if c = 'r' then some '\r'
  else if c = '"' || c = '\\' then some c
  else none

/-- What the characters read so far mean for the next one. -/
inductive Mode where
  /-- Nothing in particular. -/
  | plain
  /-- A backslash came last. -/
  | escape
  /-- So many digits of a character's number are still to come. -/
  | number (left value : Nat)
  /-- A backslash is followed by white space, with a line end in it or not yet. -/
  | gap (ended : Bool)
  /-- So many quotes came last, in a string of several lines. -/
  | quotes (n : Nat)

/-- The result of reading a character, or of seeing the end of the text. -/
inductive Step where
  | more (m : Mode) (done : List Char)
  /-- The string ended, before the character or with it. -/
  | closed (done : List Char) (withChar : Bool)
  | fail

/-- How a string is written. -/
structure Style where
  /-- The quote that ends it. -/
  quote : Char
  escapes : Bool
  multiline : Bool

/-- Reads a character in plain mode. `done` holds the string so far, its last character
first. -/
def plainStep (n : Style) (done : List Char) (c : Char) : Step :=
  if c = n.quote then
    if n.multiline then .more (.quotes 1) done else .closed done true
  else if c = '\\' && n.escapes then .more .escape done
  else if isPlain c || (n.multiline && c = '\n') then .more .plain (c :: done)
  else .fail

/-- Reads a character after a backslash. -/
def escapeStep (n : Style) (done : List Char) (c : Char) : Step :=
  if c = 'u' then .more (.number 4 0) done
  else if c = 'U' then .more (.number 8 0) done
  else if n.multiline && c = '\n' then .more (.gap true) done
  else if n.multiline && isGap c then .more (.gap false) done
  else match escape? c with
    | some e => .more .plain (e :: done)
    | none => .fail

/-- Reads a digit of a character's number. -/
def numberStep (done : List Char) (left value : Nat) (c : Char) : Step :=
  match hexDigit? c with
  | none => .fail
  | some d =>
    if left ≤ 1 then
      match scalar? (value * 16 + d) with
      | some e => .more .plain (e :: done)
      | none => .fail
    else .more (.number (left - 1) (value * 16 + d)) done

/-- Reads a character in white space after a backslash, which has to hold a line end. -/
def gapStep (n : Style) (done : List Char) (ended : Bool) (c : Char) : Step :=
  if c = '\n' then .more (.gap true) done
  else if isGap c then .more (.gap ended) done
  else if ended then plainStep n done c
  else .fail

/-- Reads a character after quotes in a string of several lines: three end it, and of up to
five the first ones are part of it. -/
def quotesStep (n : Style) (done : List Char) (count : Nat) (c : Char) : Step :=
  if c = n.quote then if count < 5 then .more (.quotes (count + 1)) done else .fail
  else if count < 3 then plainStep n (List.replicate count n.quote ++ done) c
  else .closed (List.replicate (count - 3) n.quote ++ done) false

/-- Reads a character. -/
def step (n : Style) (m : Mode) (done : List Char) (c : Char) : Step :=
  match m with
  | .plain => plainStep n done c
  | .escape => escapeStep n done c
  | .number left value => numberStep done left value c
  | .gap ended => gapStep n done ended c
  | .quotes count => quotesStep n done count c

/-- Reads a string to its end, and what follows it. -/
def readBody (n : Style) (m : Mode) (done : List Char) :
    List Char → Option (String × List Char)
  | [] =>
    match m with
    | .quotes count =>
      if count < 3 then none
      else some (String.ofList (List.replicate (count - 3) n.quote ++ done).reverse, [])
    | _ => none
  | c :: rest =>
    match step n m done c with
    | .more m done => readBody n m done rest
    | .closed done withChar =>
      some (String.ofList done.reverse, if withChar then rest else c :: rest)
    | .fail => none

/-- The body of a string of several lines: a line end right after the opening quotes is not
part of it. -/
def dropLineEnd : List Char → List Char
  | '\n' :: rest => rest
  | cs => cs

/-- The string on one line at the start of a text, and what follows it. -/
def readLineString : List Char → Option (String × List Char)
  | '"' :: rest => readBody ⟨'"', true, false⟩ .plain [] rest
  | '\'' :: rest => readBody ⟨'\'', false, false⟩ .plain [] rest
  | _ => none

/-- The string at the start of a text, and what follows it. -/
def readString : List Char → Option (String × List Char)
  | '"' :: '"' :: '"' :: rest => readBody ⟨'"', true, true⟩ .plain [] (dropLineEnd rest)
  | '\'' :: '\'' :: '\'' :: rest => readBody ⟨'\'', false, true⟩ .plain [] (dropLineEnd rest)
  | cs => readLineString cs

end CrateGraph.Toml
