import CrateGraph.FileTree
import CrateGraph.Shell.Numeral
import CrateGraph.Text.Raw

/-!
# Conditions

The conditions of `test` are about texts, whole numbers and files. They are joined by `-a`
and `-o`, negated and put in parentheses. Since an operator may also be an operand, how many
arguments there are decides how they are read.
-/

namespace CrateGraph.Shell.Condition

/-- Why arguments are no condition. -/
inductive Fault where
  | argumentExpected (op : String)
  | unexpectedOperator (arg : String)
  | unclosed
  | badNumber (arg : String)
deriving DecidableEq, Repr

/-- The fault in words. -/
def Fault.message : Fault → String
  | .argumentExpected op => op ++ ": argument expected"
  | .unexpectedOperator arg => arg ++ ": unexpected operator"
  | .unclosed => "closing paren expected"
  | .badNumber arg => "Illegal number: " ++ arg

/-- The files that conditions are about. -/
structure Place where
  tree : FileTree
  cwd : Location

/-- What a path leads to. -/
def Place.node? (p : Place) (path : String) : Option FileNode :=
  (p.tree.stat p.cwd ⟨Text.unraw path⟩).toOption

/-- What may be asked of a single text. -/
def unaryOperators : List String :=
  ["-r", "-w", "-x", "-e", "-f", "-d", "-c", "-b", "-p", "-u", "-g", "-k", "-s", "-t", "-z",
    "-n", "-h", "-O", "-G", "-L", "-S"]

/-- What may be asked of two texts. -/
def binaryOperators : List String :=
  ["=", "!=", "<", ">", "-eq", "-ne", "-ge", "-gt", "-le", "-lt", "-nt", "-ot", "-ef"]

/-- What an argument is, by what follows it. -/
inductive Role where
  | ended
  | operand
  | unary
  | binary
  | not
  | both
  | either
  | opening
  | closing
deriving DecidableEq, Repr

/-- The role of the first of some arguments. -/
def role : List String → Role
  | [] => .ended
  | s :: rest =>
    if unaryOperators.contains s then
      match rest with
      | [] => .operand
      | [_] => .unary
      | t :: _ => if binaryOperators.contains t then .operand else .unary
    else if binaryOperators.contains s then .binary
    else match s with
      | "!" => .not
      | "-a" => .both
      | "-o" => .either
      | "(" => if rest.isEmpty then .operand else .opening
      | ")" => .closing
      | _ => .operand

/-- Whether there is a link at a path. -/
def Place.isLink (p : Place) (path : String) : Bool :=
  match p.tree.place .lookAtLink p.cwd ⟨Text.unraw path⟩ with
  | .ok (.present l) => (p.tree.node? l).any FileNode.isLink
  | _ => false

/-- What may be asked of a single text. -/
def single (p : Place) (op arg : String) : Bool :=
  let node := p.node? arg
  match op with
  | "-n" => arg ≠ ""
  | "-z" => arg = ""
  | "-e" | "-O" | "-G" => node.isSome
  | "-r" => match node with
    | some (.file _ mode) => mode.readable
    | _ => node.isSome
  | "-w" => match node with
    | some (.file _ mode) => mode.writable
    | _ => node.isSome
  | "-d" => node = some .dir
  | "-f" => match node with
    | some (.file ..) | some (.program _) => true
    | _ => false
  | "-x" => match node with
    | some (.file _ mode) => mode.executable
    | some (.program _) | some .dir => true
    | _ => false
  | "-s" => match node with
    | some (.file contents _) => !contents.isEmpty
    | some (.program _) | some .dir => true
    | _ => false
  | "-L" | "-h" => p.isLink arg
  | "-c" => match node with
    | some (.device _) => true
    | _ => false
  | _ => false

/-- The number that an argument is. -/
def numberIn (arg : String) : Except Fault Int :=
  match intOf? false arg with
  | some n => .ok n
  | none => .error (.badNumber arg)

/-- What may be asked of two texts. -/
def pair (p : Place) (a op b : String) : Except Fault Bool := do
  let compare := fun (f : Int → Int → Bool) => do
    let x ← numberIn a
    return f x (← numberIn b)
  let locate := fun (s : String) => (p.tree.locate p.cwd ⟨Text.unraw s⟩).toOption
  match op with
  | "=" => return a = b
  | "!=" => return a ≠ b
  | "<" => return a < b
  | ">" => return b < a
  | "-eq" => compare fun x y => x = y
  | "-ne" => compare fun x y => x ≠ y
  | "-lt" => compare fun x y => x < y
  | "-le" => compare fun x y => x ≤ y
  | "-gt" => compare fun x y => x > y
  | "-ge" => compare fun x y => x ≥ y
  | "-ef" => return (locate a).isSome && decide (locate a = locate b)
  | _ => return false

/-- A result, and the arguments from the last one that was read. -/
abbrev Result := Except Fault (Bool × List String)

/-- A single condition, or one in parentheses, which `inner` reads. -/
def primary (p : Place) (inner : Role → List String → Result) (r : Role) (args : List String) :
    Result := do
  match r with
  | .ended => return (false, args)
  | .opening =>
    let rest := args.tail
    if role rest = .closing then return (false, rest)
    else
      let (result, rest) ← inner (role rest) rest
      if role rest.tail = .closing then return (result, rest.tail) else throw .unclosed
  | .unary =>
    let op := args.head?.getD ""
    match args.tail with
    | [] => throw (.argumentExpected op)
    | arg :: rest =>
      if op = "-t" then
        let _ ← numberIn arg
      return (single p op arg, arg :: rest)
  | _ =>
    match args with
    | a :: op :: rest =>
      if role (op :: rest) = .binary then
        match rest with
        | [] => throw (.argumentExpected op)
        | b :: rest => return (← pair p a op b, b :: rest)
      else return (a ≠ "", args)
    | args => return (args.head?.any (· ≠ ""), args)

/-- A condition that may be negated. -/
def negation (p : Place) (inner : Role → List String → Result) :
    Nat → Role → List String → Result
  | 0, _, args => .ok (false, args)
  | steps + 1, r, args => do
    if r = .not then
      let next := role args.tail
      let (result, rest) ← negation p inner steps next (if next = .ended then args else args.tail)
      return (!result, rest)
    else primary p inner r args

/-- Conditions joined by an operator. -/
def joined (part : Role → List String → Result) (op : Role) (all : Bool) :
    Nat → Bool → Role → List String → Result
  | 0, before, _, args => .ok (before, args)
  | steps + 1, before, r, args => do
    let (result, rest) ← part r args
    let now := if all then before && result else before || result
    if role rest.tail = op then
      joined part op all steps now (role (rest.drop 2)) (rest.drop 2)
    else return (now, rest)

/-- A whole condition. `steps` bounds how deep it goes. -/
def whole (p : Place) : Nat → Role → List String → Result
  | 0, _, args => .ok (false, args)
  | steps + 1, r, args =>
    let size := args.length + 2
    let both := joined (negation p (whole p steps) size) .both true size true
    joined both .either false size false r args

/-- Whether the condition that arguments state holds. `steps` bounds the negations in front
of it. -/
def holdsIn (p : Place) : Nat → Bool → List String → Except Fault Bool
  | 0, _, _ => .ok false
  | steps + 1, negated, args => do
    let evaluate := fun (r : Role) (args : List String) => do
      let (result, rest) ← whole p (args.length + 1) r args
      match rest with
      | arg :: _ :: _ => throw (.unexpectedOperator arg)
      | _ => return result ≠ negated
    let n := args.length
    if n = 0 then return negated && false
    else if n = 3 && binaryOperators.contains (args[1]?.getD "") then evaluate .operand args
    else if (n = 3 || n = 4) && args.head? = some "(" && args.getLast? = some ")" then
      let inside := args.tail.dropLast
      evaluate (role inside) inside
    else if (n = 3 || n = 4) && args.head? = some "!" then holdsIn p steps true args.tail
    else evaluate (role args) args

/-- Whether the condition that arguments state holds. -/
def holds (p : Place) (args : List String) : Except Fault Bool :=
  holdsIn p (args.length + 1) false args

end CrateGraph.Shell.Condition
