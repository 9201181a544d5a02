import CrateGraph.Toml.Moment

/-!
# Names and numbers in TOML

Digits may be grouped by single underscores. An integer has 64 bits and a sign, or is
written in another base without one. A float is the double nearest to its digits, and must
not be past the greatest one.
-/

namespace CrateGraph.Toml

/-- Digits with single underscores between them, and what follows them. -/
def readGrouped (digit? : Char → Option Nat) : List Char → List Nat × List Char
  | [] => ([], [])
  | '_' :: c :: rest =>
    match digit? c with
    | some d => (readGrouped digit? rest).map (d :: ·) id
    | none => ([], '_' :: c :: rest)
  | c :: rest =>
    match digit? c with
    | some d => (readGrouped digit? rest).map (d :: ·) id
    | none => ([], c :: rest)

/-- The digits of a number, of which the first is no underscore, and what follows them. -/
def readDigits (base : Nat) (cs : List Char) : Option (List Nat × List Char) :=
  match cs with
  | [] => none
  | c :: _ => if (digitBelow base c).isSome then some (readGrouped (digitBelow base) cs) else none

/-- A sign, if there is one: whether it is a minus. -/
def readSign : List Char → Bool × Bool × List Char
  | '+' :: rest => (true, false, rest)
  | '-' :: rest => (true, true, rest)
  | cs => (false, false, cs)

/-- The digits of a decimal number, where a zero stands alone. -/
def readDecimal (cs : List Char) : Option (List Nat × List Char) :=
  match cs with
  | '0' :: rest => some ([0], rest)
  | cs => readDigits 10 cs

/-- The first natural number that does not fit into a signed number of 64 bits. -/
def integerLimit : Nat := 9223372036854775808

/-- The integer at the start of a text, and what follows it. -/
def readInteger (cs : List Char) : Option (Int × List Char) :=
  let based := fun base rest => do
    let (ds, rest) ← readDigits base rest
    let n := ofDigits base ds
    if n < integerLimit then return ((n : Int), rest) else none
  match cs with
  | '0' :: 'x' :: rest => based 16 rest
  | '0' :: 'o' :: rest => based 8 rest
  | '0' :: 'b' :: rest => based 2 rest
  | cs => do
    let (_, negative, cs) := readSign cs
    let (ds, rest) ← readDecimal cs
    let n := ofDigits 10 ds
    if negative then
      if n ≤ integerLimit then return (-(n : Int), rest) else none
    else if n < integerLimit then return ((n : Int), rest) else none

/-- The exponent at the start of a text, if there is one, and what follows it. -/
def readExponent (cs : List Char) : Option (Option Int × List Char) :=
  match cs with
  | [] => some (none, [])
  | c :: rest =>
    if c = 'e' || c = 'E' then do
      let (_, negative, rest) := readSign rest
      let (ds, rest) ← readDigits 10 rest
      let n : Int := ofDigits 10 ds
      return (some (if negative then -n else n), rest)
    else some (none, c :: rest)

/-- The digits after a point at the start of a text, if there is one, and what follows
them. -/
def readFraction (cs : List Char) : Option (Option (List Nat) × List Char) :=
  match cs with
  | '.' :: rest => (readDigits 10 rest).map fun r => (some r.1, r.2)
  | cs => some (none, cs)

/-- The float at the start of a text, which has a point or an exponent or is no finite
number, and what follows it. -/
def readFloat (cs : List Char) : Option (Binary64 × List Char) := do
  let (_, negative, cs) := readSign cs
  match cs with
  | 'i' :: 'n' :: 'f' :: rest => return (.infinite negative, rest)
  | 'n' :: 'a' :: 'n' :: rest => return (.nan, rest)
  | cs =>
    let (whole, cs) ← readDecimal cs
    let (fraction, cs) ← readFraction cs
    let (exponent, cs) ← readExponent cs
    if fraction.isNone && exponent.isNone then none
    else
      let digits := whole ++ fraction.getD []
      let x := Binary64.ofDecimal negative (ofDigits 10 digits)
        (exponent.getD 0 - (fraction.getD []).length)
      if x = .infinite false then none else return (x, cs)

/-- What follows a name. -/
def skipName (name : String) (cs : List Char) : Option (List Char) :=
  Text.after? name.toList cs

/-- The value at the start of a text that is no string, array or table, and what follows
it. -/
def readScalar (cs : List Char) : Option (Value × List Char) :=
  match skipName "true" cs with
  | some rest => some (.bool true, rest)
  | none =>
    match skipName "false" cs with
    | some rest => some (.bool false, rest)
    | none =>
      match readMoment cs with
      | some (text, rest) => some (ofMoment text, rest)
      | none =>
        match readFloat cs with
        | some (x, rest) => some (.real x, rest)
        | none => (readInteger cs).map fun r => (.int r.1, r.2)

end CrateGraph.Toml
