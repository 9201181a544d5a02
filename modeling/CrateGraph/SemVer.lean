import CrateGraph.Text.Quoted

/-!
# Semantic versions

A version is three numbers, which may be followed by pre-release identifiers after a `-`
and build identifiers after a `+`. A requirement is a list of comparators with commas
between them; a comparator may leave out the minor and the patch number or write a
wildcard for them, and a wildcard alone is met by every version.

An error names the part of the version that was being read.
-/

namespace CrateGraph.SemVer

/-- A part of a version. -/
inductive Part where
  | major
  | minor
  | patch
  | preRelease
  | build
deriving DecidableEq, Repr

/-- The part in words. -/
def Part.name : Part → String
  | .major => "major version number"
  | .minor => "minor version number"
  | .patch => "patch version number"
  | .preRelease => "pre-release identifier"
  | .build => "build metadata"

/-- Why a text is no version or no requirement. -/
inductive Error where
  | empty
  | unexpectedEnd (part : Part)
  | unexpected (part : Part) (c : Char)
  | unexpectedAfter (part : Part) (c : Char)
  | expectedComma (part : Part) (c : Char)
  | leadingZero (part : Part)
  | overflow (part : Part)
  | emptySegment (part : Part)
  | wildcardNotAlone (c : Char)
  | unexpectedAfterWildcard
  | tooManyComparators
deriving DecidableEq, Repr

/-- The error in words. -/
def Error.message : Error → String
  | .empty => "empty string, expected a semver version"
  | .unexpectedEnd p => "unexpected end of input while parsing " ++ p.name
  | .unexpected p c => "unexpected character " ++ Text.quotedSingle c ++ " while parsing " ++ p.name
  | .unexpectedAfter p c => "unexpected character " ++ Text.quotedSingle c ++ " after " ++ p.name
  | .expectedComma p c =>
    "expected comma after " ++ p.name ++ ", found " ++ Text.quotedSingle c
  | .leadingZero p => "invalid leading zero in " ++ p.name
  | .overflow p => "value of " ++ p.name ++ " exceeds u64::MAX"
  | .emptySegment p => "empty identifier segment in " ++ p.name
  | .wildcardNotAlone c =>
    "wildcard req (" ++ c.toString ++ ") must be the only comparator in the version req"
  | .unexpectedAfterWildcard => "unexpected character after wildcard in version req"
  | .tooManyComparators => "excessive number of version comparators"

/-- A version. -/
structure Version where
  major : Nat
  minor : Nat
  patch : Nat
  preRelease : List String
  build : List String
deriving DecidableEq, Repr

/-- How a comparator relates a version to its numbers. -/
inductive Relation where
  | exact
  | greater
  | greaterEq
  | less
  | lessEq
  | tilde
  | caret
  | wildcard
deriving DecidableEq, Repr

/-- A condition on a version. -/
structure Comparator where
  relation : Relation
  major : Nat
  minor : Option Nat
  patch : Option Nat
  preRelease : List String
deriving DecidableEq, Repr

/-- Conditions that a version must all meet. -/
structure Requirement where
  comparators : List Comparator
deriving DecidableEq, Repr

/-- The first number that does not fit into 64 bits. -/
def partLimit : Nat := 18446744073709551616

/-- Reads on in a number of which some digits were read. -/
def readDigits (part : Part) : Nat → List Char → Except Error (Nat × List Char)
  | n, [] => .ok (n, [])
  | n, c :: rest =>
    if c.isDigit then
      let n' := n * 10 + (c.toNat - '0'.toNat)
      if n = 0 then .error (.leadingZero part)
      else if n' < partLimit then readDigits part n' rest
      else .error (.overflow part)
    else .ok (n, c :: rest)

/-- The number at the start of a text, and what follows it. -/
def readNumber (part : Part) : List Char → Except Error (Nat × List Char)
  | [] => .error (.unexpectedEnd part)
  | c :: rest =>
    if c.isDigit then readDigits part (c.toNat - '0'.toNat) rest
    else .error (.unexpected part c)

/-- What follows a dot after a part. -/
def readDot (part : Part) : List Char → Except Error (List Char)
  | '.' :: rest => .ok rest
  | c :: _ => .error (.unexpectedAfter part c)
  | [] => .error (.unexpectedEnd part)

/-- A segment that was read to its end, if it is allowed in a part: a number in a
pre-release has no leading zero. -/
def closeSegment (part : Part) (segment : List Char) : Except Error String :=
  if segment = [] then .error (.emptySegment part)
  else if part = .preRelease && segment.all Char.isDigit && segment.length > 1
      && segment.head? = some '0' then .error (.leadingZero part)
  else .ok (String.ofList segment)

/-- The dotted segments at the start of a text, and what follows them. `segment` holds what
was read of the current one, the last character first. -/
def readSegments (part : Part) (segment : List Char) :
    List Char → Except Error (List String × List Char)
  | [] => (closeSegment part segment.reverse).map fun s => ([s], [])
  | c :: rest =>
    if c.isAlphanum || c = '-' then readSegments part (c :: segment) rest
    else do
      let s ← closeSegment part segment.reverse
      if c = '.' then
        let (more, rest) ← readSegments part [] rest
        return (s :: more, rest)
      else return ([s], c :: rest)

/-- The identifiers that follow a mark, if the mark comes next. -/
def readMarked (mark : Char) (part : Part) (cs : List Char) :
    Except Error (List String × List Char) :=
  match cs with
  | [] => .ok ([], [])
  | c :: rest => if c = mark then readSegments part [] rest else .ok ([], cs)

/-- The last part of a version that was read. -/
def lastPart (hasPre hasBuild : Bool) : Part :=
  if hasBuild then .build else if hasPre then .preRelease else .patch

/-- The version that a text is. -/
def Version.parse (s : String) : Except Error Version := do
  if s = "" then throw .empty
  let (major, cs) ← readNumber .major s.toList
  let cs ← readDot .major cs
  let (minor, cs) ← readNumber .minor cs
  let cs ← readDot .minor cs
  let (patch, cs) ← readNumber .patch cs
  let (preRelease, cs) ← readMarked '-' .preRelease cs
  let (build, cs) ← readMarked '+' .build cs
  match cs with
  | [] => return { major, minor, patch, preRelease, build }
  | c :: _ => throw (.unexpectedAfter (lastPart (preRelease ≠ []) (build ≠ [])) c)

/-- Drops the spaces at the start of a text. -/
def dropSpaces (cs : List Char) : List Char := cs.dropWhile (· = ' ')

/-- The wildcard at the start of a text, and what follows it. -/
def wildcard? : List Char → Option (Char × List Char)
  | [] => none
  | c :: rest => if c = '*' || c = 'x' || c = 'X' then some (c, rest) else none

/-- The relation written at the start of a text, if any, and what follows it. -/
def readRelation : List Char → Option Relation × List Char
  | '=' :: rest => (some .exact, rest)
  | '>' :: '=' :: rest => (some .greaterEq, rest)
  | '>' :: rest => (some .greater, rest)
  | '<' :: '=' :: rest => (some .lessEq, rest)
  | '<' :: rest => (some .less, rest)
  | '~' :: rest => (some .tilde, rest)
  | '^' :: rest => (some .caret, rest)
  | cs => (none, cs)

/-- A number that may be left out or be a wildcard. -/
inductive Slot where
  | absent
  | wildcard
  | number (n : Nat)
deriving DecidableEq, Repr

/-- The number of a slot. -/
def Slot.number? : Slot → Option Nat
  | .number n => some n
  | _ => none

/-- The slot at the start of a text, which a dot introduces. After a wildcard there may only
be another one. -/
def readSlot (part : Part) (afterWildcard : Bool) :
    List Char → Except Error (Slot × List Char)
  | '.' :: rest =>
    match wildcard? rest with
    | some (_, rest) => .ok (.wildcard, rest)
    | none =>
      if afterWildcard then .error .unexpectedAfterWildcard
      else (readNumber part rest).map fun r => (.number r.1, r.2)
  | cs => .ok (.absent, cs)

/-- The comparator at the start of a text, the last part of it, and what follows it and its
spaces. -/
def readComparator (cs : List Char) : Except Error (Comparator × Part × List Char) := do
  let (written, cs) := readRelation cs
  let (major, cs) ← readNumber .major (dropSpaces cs)
  let (minor, cs) ← readSlot .minor false cs
  let (patch, cs) ←
    if minor = .absent then pure (.absent, cs) else readSlot .patch (minor = .wildcard) cs
  let hasPatch := patch.number?.isSome
  let (preRelease, cs) ← if hasPatch then readMarked '-' .preRelease cs else pure ([], cs)
  let (build, cs) ← if hasPatch then readMarked '+' .build cs else pure ([], cs)
  let part :=
    if patch ≠ .absent then lastPart (preRelease ≠ []) (build ≠ [])
    else if minor ≠ .absent then .minor else .major
  let relation := written.getD
    (if minor = .wildcard || patch = .wildcard then .wildcard else .caret)
  return ({ relation, major, minor := minor.number?, patch := patch.number?, preRelease },
    part, dropSpaces cs)

/-- The error for a comparator that could not be read: a wildcard among other comparators
is called that. -/
def comparatorError (cs : List Char) (e : Error) : Error :=
  match wildcard? cs with
  | none => e
  | some (c, rest) =>
    match dropSpaces rest with
    | [] => .wildcardNotAlone c
    | ',' :: _ => .wildcardNotAlone c
    | _ => e

/-- At most so many comparators, with commas between them. -/
def readComparators : Nat → List Char → Except Error (List Comparator)
  | 0, _ => .error .tooManyComparators
  | n + 1, cs => do
    let (c, part, rest) ← (readComparator cs).mapError (comparatorError cs)
    match rest with
    | [] => return [c]
    | ',' :: rest => return c :: (← readComparators n (dropSpaces rest))
    | x :: _ => throw (.expectedComma part x)

/-- The greatest number of comparators in a requirement. -/
def maxComparators : Nat := 32

/-- The requirement that a text is. -/
def Requirement.parse (s : String) : Except Error Requirement :=
  let cs := dropSpaces s.toList
  match wildcard? cs with
  | none => (readComparators maxComparators cs).map .mk
  | some (c, rest) =>
    match dropSpaces rest with
    | [] => .ok ⟨[]⟩
    | ',' :: _ => .error (.wildcardNotAlone c)
    | _ => .error .unexpectedAfterWildcard

end CrateGraph.SemVer
