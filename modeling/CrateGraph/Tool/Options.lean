import CrateGraph.Text.Basic

/-!
# Options of programs

Programs have options, which are letters after a dash or names after two dashes, and which
may have arguments. They may stand behind other arguments, unless a program reads them only
at the start.
-/

namespace CrateGraph.Tool

/-- What an option may have as its argument. -/
inductive Argument where
  | none
  | required
  | optional
deriving DecidableEq, Repr

/-- The options of a program. -/
structure Options where
  /-- The letters, with a colon after each that has an argument, and two if it need not be
  there. -/
  letters : String
  /-- The names, each with the letter that it stands for. -/
  names : List (String × Char × Argument)
  /-- Whether options come first only. -/
  first : Bool
deriving Repr

/-- An option that was given, with its argument if it has one. -/
abbrev Given := Char × Option String

namespace Options

/-- The argument of the option with a letter, if there is one. -/
def letter? (o : Options) (c : Char) : Option Argument :=
  if c = ':' then Option.none
  else match o.letters.toList.dropWhile (· ≠ c) with
    | [] => Option.none
    | _ :: ':' :: ':' :: _ => some .optional
    | _ :: ':' :: _ => some .required
    | _ => some .none

/-- Reads letters after a dash. -/
def readLetters (o : Options) : List Char → List String →
    Except String (List Given × List String)
  | [], args => .ok ([], args)
  | c :: cs, args =>
    let rest := if cs.isEmpty then Option.none else some (String.ofList cs)
    match o.letter? c with
    | Option.none => .error ("invalid option -- '" ++ c.toString ++ "'")
    | some .none => (readLetters o cs args).map fun r => ((c, Option.none) :: r.1, r.2)
    | some .optional => .ok ([(c, rest)], args)
    | some .required =>
      match rest, args with
      | some a, _ => .ok ([(c, some a)], args)
      | Option.none, a :: args => .ok ([(c, some a)], args)
      | Option.none, [] =>
        .error ("option requires an argument -- '" ++ c.toString ++ "'")

/-- The option with a name, of which only the start need be given. -/
def named (o : Options) (name : String) : Except String (String × Char × Argument) :=
  let fitting := o.names.filter fun e => Text.hasStart name e.1
  match fitting.find? (·.1 = name), fitting with
  | some e, _ => .ok e
  | Option.none, [e] => .ok e
  | Option.none, [] => .error ("unrecognized option '--" ++ name ++ "'")
  | Option.none, e :: es =>
    if es.all fun f => f.2 = e.2 then .ok e
    else
      let choices := fitting.map fun f => " '--" ++ f.1 ++ "'"
      .error ("option '--" ++ name ++ "' is ambiguous; possibilities:" ++ String.join choices)

/-- Reads a name after two dashes, with a value if one follows an equals sign. -/
def readName (o : Options) (text : List Char) (args : List String) :
    Except String (Given × List String) := do
  let name := text.takeWhile (· ≠ '=')
  let value := match text.drop name.length with
    | _ :: cs => some (String.ofList cs)
    | [] => Option.none
  let (whole, letter, argument) ← o.named (String.ofList name)
  match argument, value, args with
  | .none, some _, _ => throw ("option '--" ++ whole ++ "' doesn't allow an argument")
  | .required, Option.none, a :: args => return ((letter, some a), args)
  | .required, Option.none, [] => throw ("option '--" ++ whole ++ "' requires an argument")
  | _, value, args => return ((letter, value), args)

/-- Reads options and other arguments. `steps` bounds them. -/
def readFrom (o : Options) : Nat → List String → Except String (List Given × List String)
  | 0, args => .ok ([], args)
  | _, [] => .ok ([], [])
  | steps + 1, arg :: args =>
    match arg.toList with
    | ['-', '-'] => .ok ([], args)
    | '-' :: '-' :: name => do
      let (given, args) ← o.readName name args
      let (more, operands) ← readFrom o steps args
      return (given :: more, operands)
    | '-' :: c :: cs => do
      let (given, args) ← o.readLetters (c :: cs) args
      let (more, operands) ← readFrom o steps args
      return (given ++ more, operands)
    | _ =>
      if o.first then .ok ([], arg :: args)
      else (readFrom o steps args).map fun r => (r.1, arg :: r.2)

/-- Reads options and other arguments. -/
def read (o : Options) (args : List String) : Except String (List Given × List String) :=
  o.readFrom (args.length + 1) args

end Options

/-- What was given to a program. -/
structure Parsed where
  options : List Given
  operands : List String
deriving Repr

namespace Parsed

/-- Whether an option was given. -/
def has (p : Parsed) (c : Char) : Bool := p.options.any fun o => o.1 = c

/-- The argument of an option, which was given last. -/
def value? (p : Parsed) (c : Char) : Option String :=
  (p.options.filter fun o => o.1 = c).getLast?.bind (·.2)

/-- The arguments of an option. -/
def values (p : Parsed) (c : Char) : List String :=
  p.options.filterMap fun o => if o.1 = c then o.2 else none

/-- The option of some that was given last. -/
def last? (p : Parsed) (cs : List Char) : Option Char :=
  (p.options.filter fun o => cs.contains o.1).getLast?.map (·.1)

end Parsed

end CrateGraph.Tool
