import CrateGraph.Shell.Pattern

/-!
# Regular expressions

A regular expression says what a part of a text is like. In a basic one, parentheses,
braces and some other characters have a meaning only after a backslash; in an extended one
it is the other way round. Of the parts of a text that are like an expression, the first one
counts, and of those that start there one that is as long as possible.
-/

namespace CrateGraph.Text

/-- A regular expression. -/
inductive Regex where
  | char (test : Char → Bool)
  /-- The start or the end of the text. -/
  | start
  | stop
  /-- A place between a character of a word and another one, or not. -/
  | boundary (is : Bool)
  | wordStart
  | wordStop
  | all (rs : List Regex)
  | either (a b : Regex)
  /-- Something so many times at least, and at most if that is bounded. -/
  | times (r : Regex) (least : Nat) (most : Option Nat)
  /-- A part that is remembered by its number. -/
  | group (n : Nat) (r : Regex)
  | same (n : Nat)

namespace Regex

/-! ## Reading -/

/-- How expressions are written. -/
structure Dialect where
  extended : Bool
  /-- Whether capital letters are the same as small ones. -/
  anyCase : Bool

/-- Whether a character can be part of a word. -/
def isWordChar (c : Char) : Bool := c.isAlphanum || c = '_'

/-- The test for one character. -/
def testFor (d : Dialect) (c : Char) : Char → Bool :=
  if d.anyCase then fun x => x.toLower = c.toLower else fun x => x = c

/-- The test for a range of characters. -/
def testRange (d : Dialect) (a b : Char) : Char → Bool := fun x =>
  (a ≤ x && x ≤ b)
    || (d.anyCase && ((a ≤ x.toLower && x.toLower ≤ b) || (a ≤ x.toUpper && x.toUpper ≤ b)))

/-- The members of a bracket, as a test, and what follows them. -/
def readMembers (d : Dialect) : Nat → Bool → List Char → Option ((Char → Bool) × List Char)
  | 0, _, _ => none
  | _, _, [] => none
  | steps + 1, first, c :: rest =>
    let add := fun (test : Char → Bool) (rest : List Char) =>
      (readMembers d steps false rest).map fun r => (fun x => test x || r.1 x, r.2)
    if c = ']' && !first then some (fun _ => false, rest)
    else match c, rest with
      | '[', ':' :: more =>
        let name := more.takeWhile (· ≠ ':')
        match more.drop name.length with
        | ':' :: ']' :: after =>
          let name := String.ofList name
          let name := if d.anyCase && (name = "upper" || name = "lower") then "alpha" else name
          add (Shell.Pattern.isOfClass name) after
        | _ => none
      | '[', '=' :: x :: '=' :: ']' :: after => add (testFor d x) after
      | '[', '.' :: x :: '.' :: ']' :: after => add (testFor d x) after
      | c, '-' :: hi :: after =>
        if hi = ']' then add (testFor d c) rest else add (testRange d c hi) after
      | c, rest => add (testFor d c) rest

/-- The bracket at the start of a text, after its first character, and the rest. -/
def readBracket (d : Dialect) (cs : List Char) : Option (Regex × List Char) :=
  let (negated, cs) := match cs with
    | '^' :: rest => (true, rest)
    | _ => (false, cs)
  (readMembers d (cs.length + 1) true cs).map fun r =>
    (.char (fun x => if negated then !r.1 x else r.1 x), r.2)

/-- The bounds at the start of a text, after its brace, and the rest. -/
def readBounds (d : Dialect) (cs : List Char) : Option (Nat × Option Nat × List Char) :=
  let number := fun (cs : List Char) => cs.foldl (fun n c => n * 10 + (c.toNat - '0'.toNat)) 0
  let least := cs.takeWhile Char.isDigit
  let rest := cs.drop least.length
  let (most, rest) := match rest with
    | ',' :: more =>
      let digits := more.takeWhile Char.isDigit
      (if digits.isEmpty then none else some (number digits), more.drop digits.length)
    | _ => (some (number least), rest)
  if least.isEmpty && rest.length = cs.length then none
  else match d.extended, rest with
    | true, '\x7d' :: after => some (number least, most, after)
    | false, '\\' :: '\x7d' :: after => some (number least, most, after)
    | _, _ => none

/-- What is wrong with an expression. -/
inductive Fault where
  | unmatchedBracket
  | unmatchedParen
  | badBounds
  | nothingBefore
  | trailingBackslash
  | badReference
deriving DecidableEq, Repr

/-- The fault in words. -/
def Fault.message : Fault → String
  | .unmatchedBracket => "Unmatched [, [^, [:, [., or [="
  | .unmatchedParen => "Unmatched ( or \\("
  | .badBounds => "Invalid content of \\\x7b\\\x7d"
  | .nothingBefore => "Invalid preceding regular expression"
  | .trailingBackslash => "Trailing backslash"
  | .badReference => "Invalid back reference"

/-- A part of an expression that has a meaning of its own. -/
inductive Mark where
  | opening
  | closing
  | bar
  | star
  | plus
  | question
  | brace
deriving DecidableEq, Repr

/-- The mark at the start of an expression, and the rest. -/
def readMark (d : Dialect) (cs : List Char) : Option (Mark × List Char) :=
  let marks : List (Char × Mark) :=
    [('(', .opening), (')', .closing), ('|', .bar), ('+', .plus), ('?', .question),
      ('\x7b', .brace)]
  match cs with
  | '*' :: rest => some (.star, rest)
  | '\\' :: c :: rest => if d.extended then none else (marks.lookup c).map (·, rest)
  | c :: rest => if d.extended then (marks.lookup c).map (·, rest) else none
  | [] => none

/-- What is read of an expression: the rest, and the number of groups up to now. -/
abbrev Reading (α : Type) := List Char → Nat → Except Fault (α × List Char × Nat)

/-- The part that a character which is no mark begins. -/
def readPlain (d : Dialect) : Reading Regex := fun cs groups =>
  match cs with
  | [] => .error .trailingBackslash
  | ['\\'] => .error .trailingBackslash
  | '\\' :: c :: rest =>
    let simple := fun (r : Regex) => .ok (r, rest, groups)
    match c with
    | 'w' => simple (.char isWordChar)
    | 'W' => simple (.char fun x => !isWordChar x)
    | 's' => simple (.char (Shell.Pattern.isOfClass "space"))
    | 'S' => simple (.char fun x => !Shell.Pattern.isOfClass "space" x)
    | 'b' => simple (.boundary true)
    | 'B' => simple (.boundary false)
    | '<' => simple .wordStart
    | '>' => simple .wordStop
    | '`' => simple .start
    | '\'' => simple .stop
    | 'n' => simple (.char fun x => x = '\n')
    | 't' => simple (.char fun x => x = '\t')
    | c =>
      if c.isDigit && c ≠ '0' then
        let n := c.toNat - '0'.toNat
        if n ≤ groups then simple (.same n) else .error .badReference
      else simple (.char (testFor d c))
  | '.' :: rest => .ok (.char fun _ => true, rest, groups)
  | '[' :: rest =>
    match readBracket d rest with
    | some (r, rest) => .ok (r, rest, groups)
    | none => .error .unmatchedBracket
  | c :: rest => .ok (.char (testFor d c), rest, groups)

/-- What may follow a part and repeat it. -/
def readRepeats (d : Dialect) : Nat → Regex → List Char → Except Fault (Regex × List Char)
  | 0, r, cs => .ok (r, cs)
  | steps + 1, r, cs =>
    match readMark d cs with
    | some (.star, rest) => readRepeats d steps (.times r 0 none) rest
    | some (.plus, rest) => readRepeats d steps (.times r 1 none) rest
    | some (.question, rest) => readRepeats d steps (.times r 0 (some 1)) rest
    | some (.brace, rest) =>
      match readBounds d rest with
      | some (least, most, rest) => readRepeats d steps (.times r least most) rest
      | none => if d.extended then .ok (r, cs) else .error .badBounds
    | _ => .ok (r, cs)

/-- Whether a dollar sign means the end of the text, by what follows it. -/
def endsThere (d : Dialect) (rest : List Char) : Bool :=
  d.extended || rest.isEmpty || match readMark d rest with
    | some (.closing, _) | some (.bar, _) => true
    | _ => false

/-- The parts of an expression up to a bar or a parenthesis, after those that have been
found already, the last one first. -/
def readParts (d : Dialect) (whole : Reading Regex) :
    Nat → List Regex → Bool → Reading Regex
  | 0, found, _ => fun cs groups => .ok (.all found.reverse, cs, groups)
  | steps + 1, found, depth => fun cs groups =>
    let goOn := fun (r : Regex) (cs : List Char) (groups : Nat) => do
      let (r, cs) ← readRepeats d cs.length r cs
      readParts d whole steps (r :: found) depth cs groups
    match cs, readMark d cs with
    | [], _ => .ok (.all found.reverse, [], groups)
    | _, some (.bar, _) => .ok (.all found.reverse, cs, groups)
    | c :: rest, some (.closing, _) =>
      if depth then .ok (.all found.reverse, cs, groups)
      else if d.extended then goOn (.char (testFor d c)) rest groups
      else .error .unmatchedParen
    | _, some (.opening, rest) => do
      let n := groups + 1
      let (r, cs, groups) ← whole rest n
      match readMark d cs with
      | some (.closing, cs) => goOn (.group n r) cs groups
      | _ => .error .unmatchedParen
    | c :: rest, some (.star, _) => goOn (.char (testFor d c)) rest groups
    | _, some (.brace, rest) => goOn (.char (testFor d '\x7b')) rest groups
    | _, some (.plus, rest) =>
      if d.extended then .error .nothingBefore else goOn (.char (testFor d '+')) rest groups
    | _, some (.question, rest) =>
      if d.extended then .error .nothingBefore else goOn (.char (testFor d '?')) rest groups
    | '^' :: rest, none =>
      if d.extended || found.isEmpty then
        if d.extended then goOn .start rest groups
        else readParts d whole steps (.start :: found) depth rest groups
      else goOn (.char (testFor d '^')) rest groups
    | '$' :: rest, none =>
      if endsThere d rest then goOn .stop rest groups
      else goOn (.char (testFor d '$')) rest groups
    | cs, none => do
      let (r, cs, groups) ← readPlain d cs groups
      goOn r cs groups

/-- An expression and its alternatives. The first argument bounds how deep it is nested. -/
def readWhole (d : Dialect) : Nat → Bool → Reading Regex
  | 0, _ => fun _ _ => .error .unmatchedParen
  | deep + 1, depth => fun cs groups => do
    let (r, cs, groups) ← readParts d (readWhole d deep true) (cs.length + 1) [] depth cs groups
    match readMark d cs with
    | some (.bar, rest) => do
      let (more, cs, groups) ← readWhole d deep depth rest groups
      return (.either r more, cs, groups)
    | _ => return (r, cs, groups)

/-- The expression that a text is, and the number of its groups. -/
def read (d : Dialect) (s : String) : Except Fault (Regex × Nat) := do
  let (r, rest, groups) ← readWhole d (s.length + 1) false s.toList 0
  if rest.isEmpty then return (r, groups) else throw .unmatchedParen

/-! ## Matching -/

/-- What is left to be matched: parts of an expression, and what is to be noted on the way. -/
inductive Todo where
  | part (r : Regex)
  /-- A group ends that began at some place. -/
  | close (n place : Nat)
  /-- There must have been progress since some place. -/
  | progress (place : Nat)

/-- The places of the groups that have been found. -/
abbrev Groups := List (Nat × Nat × Nat)

/-- A part of a text that is like an expression: its places, and those of its groups. -/
structure Match where
  start : Nat
  stop : Nat
  groups : Groups

/-- Whether there is a character of a word at a place. -/
def wordAt (text : Array Char) (i : Nat) : Bool := text[i]?.any isWordChar

/-- The longer of two results, the first one if they are as long. -/
def longer : Option (Nat × Groups) → Option (Nat × Groups) → Option (Nat × Groups)
  | some a, some b => if a.1 < b.1 then some b else some a
  | some a, none => some a
  | none, b => b

/-- Where a text ends that is like what is left to be matched and begins at a place.
`steps` bounds the work. -/
def run (d : Dialect) (text : Array Char) :
    Nat → List Todo → Nat → Groups → Option (Nat × Groups)
  | 0, _, _, _ => none
  | _, [], i, gs => some (i, gs)
  | steps + 1, todo :: rest, i, gs =>
    let goOnIf := fun (b : Bool) => if b then run d text steps rest i gs else none
    match todo with
    | .close n place => run d text steps rest i ((n, place, i) :: gs)
    | .progress place => goOnIf (i ≠ place)
    | .part r =>
      match r with
      | .char test =>
        match text[i]? with
        | some c => if test c then run d text steps rest (i + 1) gs else none
        | none => none
      | .start => goOnIf (i = 0)
      | .stop => goOnIf (i = text.size)
      | .boundary is =>
        goOnIf ((wordAt text i != (i > 0 && wordAt text (i - 1))) = is)
      | .wordStart => goOnIf (wordAt text i && !(i > 0 && wordAt text (i - 1)))
      | .wordStop => goOnIf (!wordAt text i && i > 0 && wordAt text (i - 1))
      | .all rs => run d text steps (rs.map Todo.part ++ rest) i gs
      | .either a b =>
        longer (run d text steps (.part a :: rest) i gs) (run d text steps (.part b :: rest) i gs)
      | .group n r => run d text steps (.part r :: .close n i :: rest) i gs
      | .same n =>
        match gs.lookup n with
        | some (a, b) =>
          let fold := fun (c : Char) => if d.anyCase then c.toLower else c
          let same := ((text.extract a b).map fold) = ((text.extract i (i + (b - a))).map fold)
          if same then run d text steps rest (i + (b - a)) gs else none
        | none => none
      | .times r least most =>
        if most = some 0 then run d text steps rest i gs
        else if least > 0 then
          run d text steps (.part r :: .part (.times r (least - 1) (most.map (· - 1))) :: rest) i gs
        else
          match run d text steps
              (.part r :: .progress i :: .part (.times r 0 (most.map (· - 1))) :: rest) i gs with
          | some found => some found
          | none => run d text steps rest i gs

/-- The number of steps that matching is given, which is more than any text needs. -/
def manySteps : Nat := 1000000000

/-- The first part of a text from a place on that is like an expression. The first argument
bounds the places that are tried. -/
def findFrom (d : Dialect) (r : Regex) (text : Array Char) : Nat → Nat → Option Match
  | 0, _ => none
  | tries + 1, i =>
    if i > text.size then none
    else match run d text manySteps [.part r] i [] with
      | some found => some ⟨i, found.1, found.2⟩
      | none => findFrom d r text tries (i + 1)

/-- The first part of a text from a place on that is like an expression. -/
def find? (d : Dialect) (r : Regex) (text : Array Char) (i : Nat) : Option Match :=
  findFrom d r text (text.size + 2) i

/-- The part of a text at the start that is like an expression. -/
def atStart? (d : Dialect) (r : Regex) (text : Array Char) : Option Match :=
  (run d text manySteps [.part r] 0 []).map fun m => ⟨0, m.1, m.2⟩

end Regex

end CrateGraph.Text
