import CrateGraph.Shell.Command
import CrateGraph.Shell.Numeral

/-!
# Expressions of whole numbers

The shell calculates with whole numbers of 64 bits, which wrap around. An expression has
the operators of arithmetic, of comparison and of bits, a choice between two values, and
assignments to variables. What is not chosen is read, but not calculated.
-/

namespace CrateGraph.Shell.Arithmetic

/-- A token of an expression. -/
inductive Token where
  | number (n : Int)
  | variable (name : String)
  | op (s : String)
  | ended
deriving DecidableEq, Repr

/-- Why an expression has no value. -/
inductive Fault where
  /-- Something else was expected. -/
  | expected (what : String)
  | byZero
  /-- The value of a variable is no number. -/
  | badNumber (text : String)
deriving DecidableEq, Repr

/-- The fault in words, in a given expression. -/
def Fault.message (expression : String) : Fault → String
  | .expected what => "arithmetic expression: expecting " ++ what ++ ": \"" ++ expression ++ "\""
  | .byZero => "arithmetic expression: division by zero: \"" ++ expression ++ "\""
  | .badNumber text => "Illegal number: " ++ text

/-- The operators of more than one character, the longest ones first. -/
def longOperators : List String :=
  ["<<=", ">>=", "<=", ">=", "==", "!=", "&&", "||", "<<", ">>", "+=", "-=", "*=", "/=", "%=",
    "&=", "^=", "|="]

/-- The tokens of an expression. `steps` bounds them. -/
def tokens : Nat → List Char → List Token
  | 0, _ => []
  | _, [] => []
  | steps + 1, c :: rest =>
    if c = ' ' || c = '\t' || c = '\n' then tokens steps rest
    else if c.isDigit then
      let n := Numeral.read true (c :: rest)
      .number n.signed.1 :: tokens steps n.rest
    else if isNameStart c then
      .variable (String.ofList (c :: rest.takeWhile isNameChar))
        :: tokens steps (rest.dropWhile isNameChar)
    else match longOperators.find? fun o => o.toList.isPrefixOf (c :: rest) with
      | some o => .op o :: tokens steps (rest.drop (o.length - 1))
      | none => .op c.toString :: tokens steps rest

/-- What is left of an expression, and what its variables have become. -/
structure Progress where
  tokens : List Token
  assigned : List (String × Int)

/-- The evaluation of a part of an expression, in which variables have texts as values. -/
abbrev Eval := ReaderT (String → Option String) (StateT Progress (Except Fault))

/-- The token at hand. -/
def peek : Eval Token := do return (← get).tokens.head?.getD .ended

/-- Goes on to the next token. -/
def advance : Eval Unit := modify fun p => { p with tokens := p.tokens.tail }

/-- The value of a variable. -/
def valueOf (name : String) : Eval Int := do
  match (← get).assigned.lookup name with
  | some n => return n
  | none =>
    let text := ((← read) name).getD ""
    let n := Numeral.read true text.toList
    let (x, fits) := n.signed
    let rest := if n.found then n.rest else text.toList
    if fits && rest.all isSpace then return x else throw (.badNumber text)

/-- One for what is the case, and zero for what is not. -/
def ofBool (b : Bool) : Int := if b then 1 else 0

/-- The 64 bits of a number. -/
def bits (x : Int) : Nat := (x % 18446744073709551616).toNat

/-- The result of an operator. -/
def apply (op : String) (a b : Int) : Eval Int := do
  let shift := bits b % 64
  match op with
  | "*" => return wrapped (a * b)
  | "/" => if b = 0 then throw .byZero else return wrapped (a.tdiv b)
  | "%" => if b = 0 then throw .byZero else return wrapped (a.tmod b)
  | "+" => return wrapped (a + b)
  | "-" => return wrapped (a - b)
  | "<<" => return wrapped ((bits a <<< shift : Nat) : Int)
  | ">>" => return a >>> shift
  | "<" => return ofBool (a < b)
  | "<=" => return ofBool (a ≤ b)
  | ">" => return ofBool (a > b)
  | ">=" => return ofBool (a ≥ b)
  | "==" => return ofBool (a = b)
  | "!=" => return ofBool (a ≠ b)
  | "&" => return wrapped ((bits a &&& bits b : Nat) : Int)
  | "^" => return wrapped ((bits a ^^^ bits b : Nat) : Int)
  | "|" => return wrapped ((bits a ||| bits b : Nat) : Int)
  | _ => throw (.expected "primary")

/-- The operators of two operands, from those that bind most to those that bind least. -/
def levels : List (List String) :=
  [["*", "/", "%"], ["+", "-"], ["<<", ">>"], ["<", "<=", ">", ">="], ["==", "!="], ["&"],
    ["^"], ["|"]]

/-- The operators that give a variable a value, and what they do with its value before. -/
def assigning : List (String × Option String) :=
  [("=", none), ("*=", some "*"), ("/=", some "/"), ("%=", some "%"), ("+=", some "+"),
    ("-=", some "-"), ("<<=", some "<<"), (">>=", some ">>"), ("&=", some "&"),
    ("^=", some "^"), ("|=", some "|")]

/-- The value of an operand. `whole` evaluates what stands in parentheses, and `live` is
whether the value matters. -/
def operand (whole : Bool → Eval Int) (live : Bool) : Nat → Eval Int
  | 0 => throw (.expected "primary")
  | steps + 1 => do
    let t ← peek
    advance
    match t with
    | .number n => return n
    | .variable name => if live then valueOf name else return 0
    | .op "(" =>
      let n ← whole live
      if (← peek) = .op ")" then
        advance
        return n
      else throw (.expected "')'")
    | .op "+" => operand whole live steps
    | .op "-" => return wrapped (-(← operand whole live steps))
    | .op "!" => return ofBool ((← operand whole live steps) = 0)
    | .op "~" => return -(← operand whole live steps) - 1
    | _ => throw (.expected "primary")

mutual

/-- The value of operators that bind as much as those of the last level, or more. -/
def level (operand : Eval Int) (live : Bool) : List (List String) → Nat → Eval Int
  | [], _ => operand
  | ops :: tighter, steps => do
    let a ← level operand live tighter steps
    levelFrom operand live ops tighter steps a

/-- The rest of the operators of a level, after the first operand. -/
def levelFrom (operand : Eval Int) (live : Bool) (ops : List String)
    (tighter : List (List String)) : Nat → Int → Eval Int
  | 0, a => return a
  | steps + 1, a => do
    match ← peek with
    | .op o =>
      if ops.contains o then
        advance
        let b ← level operand live tighter steps
        let c ← if live then apply o a b else pure b
        levelFrom operand live ops tighter steps c
      else return a
    | _ => return a

end

/-- Both of two conditions, or one of them, read from the right. -/
def conjunction (inner : Bool → Eval Int) (op : String) (stopsAt : Bool) :
    Nat → Bool → Eval Int
  | 0, live => inner live
  | steps + 1, live => do
    let a ← inner live
    if (← peek) = .op op then
      advance
      let b ← conjunction inner op stopsAt steps (live && decide (a ≠ 0) ≠ stopsAt)
      return ofBool (if stopsAt then a ≠ 0 || b ≠ 0 else a ≠ 0 && b ≠ 0)
    else return a

/-- A choice between two values. -/
def choice (whole : Bool → Eval Int) (inner : Bool → Eval Int) : Nat → Bool → Eval Int
  | 0, live => inner live
  | steps + 1, live => do
    let a ← inner live
    if (← peek) = .op "?" then
      advance
      let b ← whole (live && a ≠ 0)
      if (← peek) ≠ .op ":" then throw (.expected "':'")
      advance
      let c ← choice whole inner steps (live && a = 0)
      return if a ≠ 0 then b else c
    else return a

/-- The value of an expression, which may be an assignment. `steps` bounds how deep it
goes. -/
def whole : Nat → Bool → Eval Int
  | 0, _ => throw (.expected "primary")
  | steps + 1, live => do
    let before := (← get).tokens
    let target := match before with
      | .variable name :: .op o :: rest => (assigning.lookup o).map fun f => (name, f, rest)
      | _ => none
    match target with
    | some (name, f, rest) =>
      modify fun p => { p with tokens := rest }
      let b ← whole steps live
      if live then
        let value ← match f with
          | some op => apply op (← valueOf name) b
          | none => pure b
        modify fun p => { p with assigned := (name, value) :: p.assigned }
        return value
      else return b
    | none =>
      let size := before.length + 1
      let binary := fun live =>
        level (operand (whole steps) live size) live levels.reverse size
      choice (whole steps) (conjunction (conjunction binary "&&" false size) "||" true size) size
        live

/-- The value of an expression, and the values that its variables get, the last one
first. -/
def evaluate (value? : String → Option String) (expression : String) :
    Except Fault (Int × List (String × Int)) := do
  let cs := expression.toList
  let ts := tokens (cs.length + 1) cs
  let (n, p) ← ((whole (ts.length + 1) true).run value?).run ⟨ts, []⟩
  if p.tokens.isEmpty then return (n, p.assigned) else throw (.expected "EOF")

end CrateGraph.Shell.Arithmetic
