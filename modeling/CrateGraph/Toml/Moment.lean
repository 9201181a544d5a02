import CrateGraph.Text.Basic
import CrateGraph.Value

/-!
# Dates and times in TOML

A date and a time of day, alone or together, with or without an offset, must exist. What is
kept of a moment is its text in one form: a `T` before the time, no zeros at the end of a
second, and a plus for no offset.

A moment is handed on as a table with one key. A table that already has that key first is
taken for a moment where values of any kind are wanted, and must then be one.
-/

namespace CrateGraph.Toml

/-- The value of a digit below a base. -/
def digitBelow (base : Nat) (c : Char) : Option Nat :=
  let n := c.toNat
  let d? :=
    if c.isDigit then some (n - 0x30)
    else if 'a' ≤ c && c ≤ 'f' then some (n - 0x57)
    else if 'A' ≤ c && c ≤ 'F' then some (n - 0x37)
    else none
  d?.filter (· < base)

/-- The number that digits in a base stand for. -/
def ofDigits (base : Nat) (ds : List Nat) : Nat := ds.foldl (fun n d => n * base + d) 0

/-- A number of exactly so many digits, and what follows it. -/
def readFixed (width : Nat) (cs : List Char) : Option (Nat × List Char) :=
  let ds := (cs.take width).filterMap (digitBelow 10)
  if ds.length = width then some (ofDigits 10 ds, cs.drop width) else none

/-- What follows a character. -/
def skip (c : Char) : List Char → Option (List Char)
  | [] => none
  | c' :: rest => if c = c' then some rest else none

/-- Whether a year has a leap day. -/
def isLeap (year : Nat) : Bool := year % 4 = 0 && (year % 100 ≠ 0 || year % 400 = 0)

/-- The number of days of a month. -/
def daysOf (year month : Nat) : Nat :=
  if month = 2 then if isLeap year then 29 else 28
  else if month = 4 || month = 6 || month = 9 || month = 11 then 30
  else 31

/-- The date at the start of a text as it is written, and what follows it. -/
def readDate (cs : List Char) : Option (String × List Char) := do
  let (year, cs) ← readFixed 4 cs
  let cs ← skip '-' cs
  let (month, cs) ← readFixed 2 cs
  let cs ← skip '-' cs
  let (day, cs) ← readFixed 2 cs
  if 1 ≤ month && month ≤ 12 && 1 ≤ day && day ≤ daysOf year month then
    return (Text.padded 4 year ++ "-" ++ Text.padded 2 month ++ "-" ++ Text.padded 2 day, cs)
  else none

/-- The fraction of a second at the start of a text, to nine digits and without zeros at
its end, and what follows it. -/
def readSubsecond (cs : List Char) : Option (String × List Char) :=
  match cs with
  | '.' :: rest =>
    let digits := rest.takeWhile Char.isDigit
    if digits = [] then none
    else
      let kept := ((digits.take 9).reverse.dropWhile (· = '0')).reverse
      some (if kept = [] then "" else "." ++ String.ofList kept, rest.dropWhile Char.isDigit)
  | cs => some ("", cs)

/-- The hour and minute at the start of a text, and what follows them. -/
def readClock (cs : List Char) : Option (String × List Char) := do
  let (hour, cs) ← readFixed 2 cs
  let cs ← skip ':' cs
  let (minute, cs) ← readFixed 2 cs
  if hour ≤ 23 && minute ≤ 59 then
    return (Text.padded 2 hour ++ ":" ++ Text.padded 2 minute, cs)
  else none

/-- The time of day at the start of a text, and what follows it. A minute may have a leap
second. -/
def readTime (cs : List Char) : Option (String × List Char) := do
  let (clock, cs) ← readClock cs
  let cs ← skip ':' cs
  let (second, cs) ← readFixed 2 cs
  if second ≤ 60 then
    let (fraction, cs) ← readSubsecond cs
    return (clock ++ ":" ++ Text.padded 2 second ++ fraction, cs)
  else none

/-- The offset from universal time at the start of a text, if there is one, and what
follows it. -/
def readOffset (cs : List Char) : Option (String × List Char) :=
  match cs with
  | [] => some ("", [])
  | c :: rest =>
    if c = 'Z' || c = 'z' then some ("Z", rest)
    else if c = '+' || c = '-' then
      (readClock rest).map fun r => ((if r.1 = "00:00" then "+" else c.toString) ++ r.1, r.2)
    else some ("", c :: rest)

/-- The time and offset that follow a date, if a time does. -/
def readTimeOfDate (cs : List Char) : Option (String × List Char) :=
  match cs with
  | [] => some ("", [])
  | c :: rest =>
    if c = 'T' || c = 't' || c = ' ' then
      match readTime rest with
      | some (time, rest) => (readOffset rest).map fun r => ("T" ++ time ++ r.1, r.2)
      | none => some ("", c :: rest)
    else some ("", c :: rest)

/-- The date or time at the start of a text, and what follows it. -/
def readMoment (cs : List Char) : Option (String × List Char) :=
  match readDate cs with
  | some (date, rest) => (readTimeOfDate rest).map fun r => (date ++ r.1, r.2)
  | none => readTime cs

/-- A moment is handed on as a table with one key that no text can be expected to use. -/
def momentKey : String := "$__toml_private_datetime"

/-- The tree of a moment. -/
def ofMoment (text : String) : Value := .table [(momentKey, .text text)]

/-! ## Moments among values of any kind -/

/-- What follows the offset at the start of a text, if that is less than two days off. Only
its whole length counts, not the number of minutes beside the hours. -/
def skipOffset (cs : List Char) : Option (List Char) :=
  match cs with
  | [] => some []
  | c :: rest =>
    if c = 'Z' || c = 'z' then some rest
    else if c = '+' || c = '-' then do
      let (hours, rest) ← readFixed 2 rest
      let rest ← skip ':' rest
      let (minutes, rest) ← readFixed 2 rest
      if hours * 60 + minutes ≤ 24 * 60 then return rest else none
    else none

/-- What follows the time of day at the start of a text, which may be as late as 24 hours
and some. -/
def skipTime (cs : List Char) : Option (List Char) := do
  let (hour, cs) ← readFixed 2 cs
  let cs ← skip ':' cs
  let (minute, cs) ← readFixed 2 cs
  let cs ← skip ':' cs
  let (second, cs) ← readFixed 2 cs
  let (_, cs) ← readSubsecond cs
  if hour ≤ 24 && minute ≤ 59 && second ≤ 60 then return cs else none

/-- Whether a text that stands for a moment is one. -/
def isMoment (s : String) : Bool :=
  let cs := s.toList
  let rest := match readDate cs with
    | none => skipTime cs
    | some (_, c :: rest) =>
      if c = 'T' || c = 't' || c = ' ' then do skipOffset (← skipTime rest) else none
    | some (_, []) => some []
  rest = some []

mutual

/-- Whether a tree is a value of any kind: whatever has the key of a moment first is one. -/
def isAnyValue : Value → Bool
  | .table [] => true
  | .table ((k, v) :: rest) =>
    if k = momentKey then
      match v with
      | .text s => isMoment s
      | _ => false
    else isAnyValue v && areAnyValues rest
  | .list items => areAnyItems items
  | _ => true

/-- Whether the trees of entries are values of any kind. -/
def areAnyValues : List (String × Value) → Bool
  | [] => true
  | (_, v) :: rest => isAnyValue v && areAnyValues rest

/-- Whether the items of a list are values of any kind. -/
def areAnyItems : List Value → Bool
  | [] => true
  | v :: rest => isAnyValue v && areAnyItems rest

end

/-- Whether the tree of a whole text is a table of values of any kind. Its own keys stand for
themselves. -/
def isAnyTable : Value → Bool
  | .table entries => areAnyValues entries
  | _ => false

end CrateGraph.Toml
