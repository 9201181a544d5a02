import CrateGraph.Shell.Arithmetic
import CrateGraph.Shell.Format
import CrateGraph.Text.Regex
import CrateGraph.Tool.Copying

/-!
# Programs for numbers and values

`seq`, which writes numbers, `sleep`, which waits, and `expr`, which calculates.
-/

namespace CrateGraph.Tool

open Shell (Work Session Opening complain setStatus openPath numberOf manyRounds)

/-! ## Durations -/

/-- The number of milliseconds that a text asks for: seconds with decimals, or another unit
after them. -/
def millisecondsOf (s : String) : Option Nat :=
  let cs := s.toList
  let whole := cs.takeWhile Char.isDigit
  let rest := cs.dropWhile Char.isDigit
  let (part, rest) := match rest with
    | '.' :: rest => (rest.takeWhile Char.isDigit, rest.dropWhile Char.isDigit)
    | rest => ([], rest)
  let unit := match rest with
    | [] => some 1000
    | ['s'] => some 1000
    | ['m'] => some 60000
    | ['h'] => some 3600000
    | ['d'] => some 86400000
    | _ => none
  if whole = [] && part = [] then none
  else unit.map fun u =>
    let scale := Nat.pow 10 part.length
    numberOf 10 whole * u + (numberOf 10 part * u + scale - 1) / scale

/-- Whether a text asks for no end. -/
def isEndless (s : String) : Bool :=
  ["infinity", "inf"].contains (String.ofList (s.toList.map Char.toLower))

/-- Waits. -/
def sleep : Work Unit := do
  let p ← parsed 1 ⟨"", [], false⟩
  if p.operands.isEmpty then misuse 1 "missing operand"
  else
    let wrong := p.operands.filter fun a => !isEndless a && (millisecondsOf a).isNone
    for a in wrong do
      warn ("invalid time interval " ++ quoted a)
    if !wrong.isEmpty then
      hint
      quit 1
    else if p.operands.any isEndless then Shell.stall
    else System.sleep ((p.operands.filterMap millisecondsOf).foldl Nat.add 0)

/-! ## `seq` -/

/-- A number with some digits after its point. -/
structure Fixed where
  value : Int
  places : Nat
  /-- The number of characters that it was written with. -/
  width : Nat

/-- The number that an argument is. -/
def fixedOf? (s : String) : Option Fixed :=
  let cs := s.toList
  let (negative, digits) := match cs with
    | '-' :: rest => (true, rest)
    | '+' :: rest => (false, rest)
    | _ => (false, cs)
  let whole := digits.takeWhile Char.isDigit
  let rest := digits.drop whole.length
  let part := match rest with
    | '.' :: more => more
    | _ => []
  let isWhole := rest.isEmpty || rest.head? = some '.'
  if !isWhole || !part.all Char.isDigit || (whole.isEmpty && part.isEmpty) then none
  else
    let n : Int := numberOf 10 (whole ++ part)
    some ⟨if negative then -n else n, part.length, (max 1 whole.length) + if negative then 1 else 0⟩

/-- A number with so many more digits after its point. -/
def Fixed.scaled (f : Fixed) (places : Nat) : Int := f.value * (Nat.pow 10 (places - f.places) : Nat)

/-- A number as it is written. -/
def fixedText (places width : Nat) (n : Int) : String :=
  let digits := (Text.padded (places + 1) n.natAbs).toList
  let whole := digits.take (digits.length - places)
  let sign := if n < 0 then ['-'] else []
  let text := whole ++ if places = 0 then [] else '.' :: digits.drop (digits.length - places)
  let zeros := List.replicate (width - (sign.length + text.length)) '0'
  String.ofList (sign ++ zeros ++ text)

/-- Writes numbers, many at a time. -/
def writeNumbers (text : Int → String) (separator : String) (step : Int) :
    Nat → Nat → Int → Work Unit
  | 0, _, _ => return ()
  | _, 0, _ => return ()
  | rounds + 1, count, n => do
    let size := min count 512
    let numbers := (List.range size).map fun (i : Nat) => text (n + step * i)
    System.labor (4 * size)
    print (String.intercalate separator numbers ++ if size = count then "\n" else separator)
    writeNumbers text separator step rounds (count - size) (n + step * size)

/-- Writes the numbers from one to another. -/
def seq : Work Unit := do
  let args := (← get).args
  let isNegative := fun (a : String) => match a.toList with
    | '-' :: c :: _ => c.isDigit || c = '.'
    | _ => false
  modify fun s => { s with args := (args.takeWhile fun a => !isNegative a)
    ++ match args.dropWhile (fun a => !isNegative a) with
      | [] => []
      | rest => "--" :: rest }
  let p ← parsed 1
    ⟨"f:s:w", [("equal-width", 'w', .none), ("format", 'f', .required),
      ("separator", 's', .required)], true⟩
  let operands := p.operands.filter (· ≠ "--")
  let numbers ← operands.mapM fun a => do
    match fixedOf? a with
    | some f => return f
    | none => misuse 1 ("invalid floating point argument: " ++ quoted a)
  let one : Fixed := ⟨1, 0, 1⟩
  let (first, step, last) ← match numbers with
    | [] => misuse 1 "missing operand"
    | [last] => pure (one, one, last)
    | [first, last] => pure (first, one, last)
    | [first, step, last] => pure (first, step, last)
    | _ => misuse 1 ("extra operand " ++ quoted ((operands[3]?).getD ""))
  if step.value = 0 then misuse 1 ("invalid Zero increment value: " ++ quoted ((operands[1]?).getD ""))
  let places := max first.places step.places
  let all := max places last.places
  let (a, d, z) := (first.scaled all, step.scaled all, last.scaled all)
  let count := ((z - a).fdiv d + 1).toNat
  let drop : Int := (Nat.pow 10 (all - places) : Nat)
  let final := (a + d * ((count : Int) - 1)).tdiv drop
  let width := if p.has 'w' then max (fixedText places 0 (a.tdiv drop)).length
      (max (fixedText places 0 final).length (fixedText places 0 (z.tdiv drop)).length)
    else 0
  let text := fun (n : Int) =>
    let plain := fixedText places width (n.tdiv drop)
    match p.value? 'f' with
    | some f => String.ofList (Shell.formatted .programFormat .programText f [plain]).printed.chars
    | none => plain
  let separator := (p.value? 's').getD "\n"
  if count > 0 then writeNumbers text separator d manyRounds count a

/-! ## `expr` -/

/-- Something that `expr` calculates, or the rest of the arguments if it does not go on. -/
abbrev Calculation := Except (Nat × String) (String × List String)

/-- The number that a text is. -/
def wholeOf? (s : String) : Option Int :=
  let cs := s.toList
  let digits := match cs with
    | '-' :: rest => rest
    | _ => cs
  if digits.isEmpty || !digits.all Char.isDigit then none
  else
    let n : Int := numberOf 10 digits
    some (if cs.head? = some '-' then -n else n)

/-- Whether a value counts as false. -/
def isNull (s : String) : Bool := s = "" || wholeOf? s = some 0

/-- The part of a text at its start that is like an expression: its group if there is one,
or its length. -/
def matchedPart (text pattern : String) : Except (Nat × String) String :=
  let d : Text.Regex.Dialect := ⟨false, false⟩
  match Text.Regex.read d pattern with
  | .error e => .error (2, e.message)
  | .ok (r, groups) =>
    let cs := text.toList.toArray
    match Text.Regex.atStart? d r cs with
    | none => .ok (if groups > 0 then "" else "0")
    | some m =>
      if groups > 0 then
        match m.groups.lookup 1 with
        | some (a, b) => .ok (String.ofList (cs.extract a b).toList)
        | none => .ok ""
      else .ok (toString m.stop)

/-- What two numbers give. -/
def combine (op : String) (a b : String) : Except (Nat × String) String :=
  let order : Ordering := match wholeOf? a, wholeOf? b with
    | some x, some y => compare x y
    | _, _ => compare a b
  let ofBool := fun (b : Bool) => .ok (if b then "1" else "0")
  match op with
  | "=" | "==" => ofBool (order = .eq)
  | "!=" => ofBool (order ≠ .eq)
  | "<" => ofBool (order = .lt)
  | "<=" => ofBool (order ≠ .gt)
  | ">" => ofBool (order = .gt)
  | ">=" => ofBool (order ≠ .lt)
  | ":" => matchedPart a b
  | _ =>
    match wholeOf? a, wholeOf? b with
    | some x, some y =>
      match op with
      | "+" => .ok (toString (x + y))
      | "-" => .ok (toString (x - y))
      | "*" => .ok (toString (x * y))
      | "/" => if y = 0 then .error (2, "division by zero") else .ok (toString (x.tdiv y))
      | _ => if y = 0 then .error (2, "division by zero") else .ok (toString (x.tmod y))
    | _, _ => .error (2, "non-integer argument")

/-- The operators from the weakest to the strongest, without those that join conditions. -/
def calculationLevels : List (List String) :=
  [["<", "<=", "=", "==", "!=", ">=", ">"], ["+", "-"], ["*", "/", "%"], [":"]]

/-- An operand at the start of arguments. The first argument of `whole` bounds how deep
parentheses are nested. -/
def calculateOperand (whole : List String → Calculation) : List String → Calculation
  | [] => .error (2, "syntax error: unexpected end of arguments")
  | "(" :: rest => do
    match ← whole rest with
    | (v, ")" :: rest) => return (v, rest)
    | (_, x :: _) => throw (2, "syntax error: expecting ')' instead of " ++ quoted x)
    | (_, []) => throw (2, "syntax error: expecting ')' after " ++ quoted (rest.getLast?.getD ""))
  | ")" :: _ => .error (2, "syntax error: unexpected ')'")
  | "+" :: v :: rest => .ok (v, rest)
  | "length" :: v :: rest => .ok (toString v.length, rest)
  | "match" :: a :: b :: rest => (matchedPart a b).map (·, rest)
  | "index" :: a :: b :: rest =>
    let place := a.toList.findIdx fun c => b.toList.contains c
    .ok (toString (if place = a.length then 0 else place + 1), rest)
  | "substr" :: v :: a :: n :: rest =>
    match wholeOf? a, wholeOf? n with
    | some a, some n =>
      .ok (if a ≤ 0 || n ≤ 0 then "" else
        String.ofList ((v.toList.drop (a.toNat - 1)).take n.toNat), rest)
    | _, _ => .ok ("", rest)
  | v :: rest => .ok (v, rest)

mutual

/-- The value of arguments with operators of some levels. -/
def calculateLevel (whole : List String → Calculation) :
    List (List String) → List String → Calculation
  | [], args => calculateOperand whole args
  | ops :: levels, args => do
    let (v, rest) ← calculateLevel whole levels args
    calculateRest whole ops levels (rest.length + 1) v rest
termination_by levels => (levels.length, 0)

/-- The rest of a row of operators of one level, after a value. `steps` bounds them. -/
def calculateRest (whole : List String → Calculation) (ops : List String)
    (levels : List (List String)) : Nat → String → List String → Calculation
  | 0, v, rest => .ok (v, rest)
  | steps + 1, v, rest =>
    match rest with
    | op :: more =>
      if ops.contains op then do
        if more.isEmpty then throw (2, "syntax error: missing argument after " ++ quoted op)
        let (b, rest) ← calculateLevel whole levels more
        calculateRest whole ops levels steps (← combine op v b) rest
      else .ok (v, rest)
    | [] => .ok (v, rest)
termination_by steps => (levels.length, steps + 1)

end

/-- The value of arguments, given how deep they may be nested. -/
def calculateWhole : Nat → List String → Calculation
  | 0, _ => .error (2, "syntax error")
  | deep + 1, args =>
    let comparison := calculateLevel (calculateWhole deep) calculationLevels
    let rec joined (op : String) (inner : List String → Calculation) :
        Nat → String → List String → Calculation
      | 0, v, rest => .ok (v, rest)
      | steps + 1, v, rest =>
        match rest with
        | x :: more =>
          if x = op then do
            if more.isEmpty then throw (2, "syntax error: missing argument after " ++ quoted op)
            let (b, rest) ← inner more
            let value := if op = "&" then if isNull v || isNull b then "0" else v
              else if !isNull v then v else if isNull b then "0" else b
            joined op inner steps value rest
          else .ok (v, rest)
        | [] => .ok (v, rest)
    let both := fun (args : List String) => do
      let (v, rest) ← comparison args
      joined "&" comparison (rest.length + 1) v rest
    do
      let (v, rest) ← both args
      joined "|" both (rest.length + 1) v rest

/-- Calculates. -/
def expr : Work Unit := do
  let args := match (← get).args with
    | "--" :: rest => rest
    | rest => rest
  if args.isEmpty then misuse 2 "missing operand"
  else match calculateWhole (args.length + 1) args with
    | .error (status, message) => fail status message
    | .ok (v, []) => do
      print (v ++ "\n")
      setStatus (if isNull v then 1 else 0)
    | .ok (_, x :: _) => fail 2 ("syntax error: unexpected argument " ++ quoted x)

end CrateGraph.Tool
