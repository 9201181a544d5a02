import CrateGraph.Decimal.Places
import CrateGraph.Shell.Printed

/-!
# What `printf` prints

A format is a text in which a percent sign stands for the next argument, printed in a way
that flags, a width, a precision and a letter choose. The format is used again as long as
there are arguments. An argument that is no number where one is wanted is remarked on, and
counts as far as it is one.
-/

namespace CrateGraph.Shell

/-- A width or a precision. -/
inductive Measure where
  | none
  | given (n : Nat)
  /-- The next argument. -/
  | argument
deriving DecidableEq, Repr

/-- How a value is printed. -/
structure Conversion where
  flags : List Char
  width : Measure
  precision : Measure
  kind : Char
  /-- The text of the conversion. -/
  text : String

/-- A piece of a format. -/
inductive FormatPiece where
  | text (p : Printed)
  | value (k : Conversion)
  /-- A conversion that there is not. -/
  | unknown (text : String)
  /-- A conversion that ends before its letter. -/
  | cut (text : String)

/-- What is wrong with an argument. -/
inductive Remark where
  | noNumber (arg : String)
  | notWhole (arg : String)
  | tooGreat (arg : String)
deriving DecidableEq, Repr

/-- The measure at the start of a text, and the rest. -/
def readMeasure (cs : List Char) : Measure × List Char :=
  match cs with
  | '*' :: rest => (.argument, rest)
  | cs =>
    let digits := cs.takeWhile Char.isDigit
    (if digits.isEmpty then .none else .given (numberOf 10 digits), cs.drop digits.length)

/-- The kinds of values. -/
def conversionKinds : List Char :=
  ['d', 'i', 'o', 'u', 'x', 'X', 'c', 's', 'b', 'e', 'E', 'f', 'F', 'g', 'G']

/-- The piece after a percent sign, and the rest. -/
def readConversion (cs : List Char) : FormatPiece × List Char :=
  let flags := cs.takeWhile ['#', '-', '+', ' ', '0'].contains
  let (width, afterWidth) := readMeasure (cs.drop flags.length)
  let (precision, rest) := match afterWidth with
    | '.' :: rest =>
      let (m, rest) := readMeasure rest
      (if m = .none then .given 0 else m, rest)
    | rest => (.none, rest)
  let upTo := fun (after : List Char) =>
    String.ofList ('%' :: cs.take (cs.length - after.length))
  match rest with
  | [] => (.cut (upTo []), [])
  | c :: after =>
    if conversionKinds.contains c then (.value ⟨flags, width, precision, c, upTo after⟩, after)
    else (.unknown (upTo after), after)

/-- The pieces of a format. `steps` bounds them. -/
def formatPieces (e : Escapes) : Nat → List Char → List FormatPiece
  | 0, _ => []
  | _, [] => []
  | steps + 1, '%' :: '%' :: cs => .text ⟨['%'], false⟩ :: formatPieces e steps cs
  | steps + 1, '%' :: cs =>
    let (p, rest) := readConversion cs
    p :: formatPieces e steps rest
  | steps + 1, '\\' :: cs =>
    let (p, rest) := readEscape e cs
    .text p :: formatPieces e steps rest
  | steps + 1, c :: cs => .text ⟨[c], false⟩ :: formatPieces e steps cs

/-! ## Values -/

/-- What is wrong with an argument that was read as a number. -/
def remarks (arg : String) (found fits : Bool) (rest : List Char) : List Remark :=
  if !rest.isEmpty then [if found then .notWhole arg else .noNumber arg]
  else if !fits then [.tooGreat arg]
  else []

/-- The character that an argument quotes with its first one, as a number. -/
def quotedChar? (arg : String) : Option Nat :=
  match arg.toList with
  | '"' :: rest => some ((rest.head?.map Char.toNat).getD 0)
  | '\'' :: rest => some ((rest.head?.map Char.toNat).getD 0)
  | _ => none

/-- An argument as a number with a sign. -/
def signedArg (arg : String) : Int × List Remark :=
  match quotedChar? arg with
  | some n => (n, [])
  | none =>
    let n := Numeral.read true arg.toList
    let (x, fits) := n.signed
    (x, remarks arg n.found fits n.rest)

/-- An argument as a number without a sign. -/
def unsignedArg (arg : String) : Nat × List Remark :=
  match quotedChar? arg with
  | some n => (n, [])
  | none =>
    let n := Numeral.read true arg.toList
    let (x, fits) := n.unsigned
    (x, remarks arg n.found fits n.rest)

/-- The digits, the point and the power of ten of a decimal number, and the rest. -/
def readDecimal (cs : List Char) : Option (Nat × Int × List Char) :=
  let whole := cs.takeWhile Char.isDigit
  let after := cs.drop whole.length
  let (part, after) := match after with
    | '.' :: rest =>
      let part := rest.takeWhile Char.isDigit
      (part, if whole.isEmpty && part.isEmpty then after else rest.drop part.length)
    | rest => ([], rest)
  if whole.isEmpty && part.isEmpty then none
  else
    let power := fun (negative : Bool) (digits rest : List Char) =>
      if digits.isEmpty then none
      else some ((if negative then -1 else 1) * (numberOf 10 digits : Int), rest)
    let scaled := match after with
      | e :: rest =>
        if e ≠ 'e' && e ≠ 'E' then none
        else
          let (negative, rest) := match rest with
            | '-' :: rest => (true, rest)
            | '+' :: rest => (false, rest)
            | rest => (false, rest)
          let digits := rest.takeWhile Char.isDigit
          power negative digits (rest.drop digits.length)
      | [] => none
    let (k, rest) := scaled.getD (0, after)
    some (numberOf 10 (whole ++ part), k - part.length, rest)

/-- An argument as a double. -/
def doubleArg (arg : String) : Binary64 × List Remark :=
  match quotedChar? arg with
  | some n => (.ofNat false n, [])
  | none =>
    let cs := arg.toList.dropWhile isSpace
    let (negative, digits) := match cs with
      | '-' :: rest => (true, rest)
      | '+' :: rest => (false, rest)
      | rest => (false, rest)
    let isWord := fun (s : String) => s.toList.isPrefixOf (digits.map Char.toLower)
    if isWord "infinity" then (.infinite negative, remarks arg true true (digits.drop 8))
    else if isWord "inf" then (.infinite negative, remarks arg true true (digits.drop 3))
    else if isWord "nan" then (.nan, remarks arg true true (digits.drop 3))
    else
      let n := Numeral.read true digits
      if (Numeral.baseOf digits).1 = 16 then
        (.ofNat negative n.magnitude, remarks arg true true n.rest)
      else match readDecimal digits with
        | some (m, k, rest) => (.ofDecimal negative m k, remarks arg true true rest)
        | none => (.zero false, remarks arg false true arg.toList)

/-! ## Layout -/

/-- The layout of a value: flags, a width and a precision that are known. -/
structure Layout where
  left : Bool
  plus : Bool
  space : Bool
  alternate : Bool
  zeros : Bool
  width : Nat
  precision : Option Nat

namespace Layout

/-- A text filled up to the width, on the side that the layout chooses. -/
def pad (l : Layout) (cs : List Char) : List Char :=
  let fill := List.replicate (l.width - cs.length) ' '
  if l.left then cs ++ fill else fill ++ cs

/-- A number filled up to the width, with zeros after its sign if the layout says so. -/
def padNumber (l : Layout) (zeros : Bool) (sign digits : List Char) : List Char :=
  if zeros && !l.left then
    sign ++ List.replicate (l.width - sign.length - digits.length) '0' ++ digits
  else l.pad (sign ++ digits)

/-- The sign of a number. -/
def signOf (l : Layout) (negative : Bool) : List Char :=
  if negative then ['-'] else if l.plus then ['+'] else if l.space then [' '] else []

/-- Digits with zeros in front, as many as the precision asks for. -/
def whole (l : Layout) (digits : List Char) : List Char :=
  let digits := if digits = ['0'] && l.precision = some 0 then [] else digits
  List.replicate ((l.precision.getD 1) - digits.length) '0' ++ digits

/-- A whole number in a base. -/
def printWhole (l : Layout) (kind : Char) (sign : List Char) (n : Nat) : List Char :=
  let base := if kind = 'o' then 8 else if kind = 'x' || kind = 'X' then 16 else 10
  let digits := l.whole (Nat.toDigits base n)
  let digits := if kind = 'X' then digits.map Char.toUpper else digits
  let digits := if kind = 'o' && l.alternate && digits.head? ≠ some '0' then '0' :: digits
    else digits
  let sign := if base = 16 && l.alternate && n ≠ 0 then ['0', kind] else sign
  l.padNumber (l.zeros && l.precision.isNone) sign digits

/-- Digits before and after the point. -/
def pointed (l : Layout) (p : List Char × List Char) : List Char :=
  p.1 ++ (if p.2.isEmpty && !l.alternate then [] else '.' :: p.2)

/-- A power of ten. -/
def power (k : Int) : List Char :=
  (if k < 0 then ['e', '-'] else ['e', '+']) ++ Decimal.digitsOf 2 k.natAbs

/-- Digits after the point without the zeros at their end. -/
def withoutZeros (cs : List Char) : List Char := (cs.reverse.dropWhile (· = '0')).reverse

/-- A positive quotient as a number with a point. -/
def printQuotient (l : Layout) (kind : Char) (num den : Nat) : List Char :=
  let places := l.precision.getD 6
  if kind = 'f' then l.pointed (Decimal.placed places num den)
  else if kind = 'e' then
    let (p, k) := Decimal.scientific places num den
    l.pointed p ++ power k
  else
    let digits := max 1 places
    let (p, k) := Decimal.scientific (digits - 1) num den
    let trimmed := fun (p : List Char × List Char) =>
      if l.alternate then p else (p.1, withoutZeros p.2)
    if -4 ≤ k && k < digits then
      l.pointed (trimmed (Decimal.placed ((digits : Int) - 1 - k).toNat num den))
    else l.pointed (trimmed p) ++ power k

/-- A double. -/
def printDouble (l : Layout) (kind : Char) (x : Binary64) : List Char :=
  let cased := fun (cs : List Char) => if kind.isUpper then cs.map Char.toUpper else cs
  cased <| match x with
    | .nan => l.pad (l.signOf false ++ ['n', 'a', 'n'])
    | .infinite negative => l.pad (l.signOf negative ++ ['i', 'n', 'f'])
    | .finite negative m e =>
      let q := Binary64.quotient m e
      l.padNumber l.zeros (l.signOf negative) (l.printQuotient kind.toLower q.1 q.2)

/-- An argument, printed as its kind says. -/
def print (l : Layout) (e : Escapes) (kind : Char) (arg : Option String) :
    Printed × List Remark :=
  let text := arg.getD ""
  let cut := fun (cs : List Char) => match l.precision with
    | some p => cs.take p
    | none => cs
  let known := fun (cs : List Char) (rs : List Remark) => ((⟨cs, false⟩ : Printed), rs)
  if kind = 's' then known (l.pad (cut text.toList)) []
  else if kind = 'b' then
    let p := unescape e text.toList
    (⟨l.pad (cut p.chars), p.last⟩, [])
  else if kind = 'c' then known (l.pad [text.toList.head?.getD (Char.ofNat 0)]) []
  else if kind = 'd' || kind = 'i' then
    let (x, rs) := arg.elim (0, []) signedArg
    known (l.printWhole kind (l.signOf (x < 0)) x.natAbs) rs
  else if ['o', 'u', 'x', 'X'].contains kind then
    let (n, rs) := arg.elim (0, []) unsignedArg
    known (l.printWhole kind [] n) rs
  else
    let (x, rs) := arg.elim (Binary64.zero false, []) doubleArg
    known (l.printDouble kind x) rs

end Layout

/-! ## The whole format -/

/-- What came of a format. -/
structure Formatted where
  printed : Printed
  remarks : List Remark
  /-- The conversion that ended it, and whether its letter was missing. -/
  fault : Option (String × Bool)
  /-- The arguments that are left. -/
  rest : List String

/-- The greatest measure that is looked at. -/
def widest : Nat := 4194304

/-- A measure that is known, and whether it was negative, with the arguments that are
left. -/
def Measure.resolve (m : Measure) (args : List String) :
    Option Nat × Bool × List Remark × List String :=
  match m with
  | .none => (Option.none, false, [], args)
  | .given n => (some (min n widest), false, [], args)
  | .argument =>
    let (x, rs) := args.head?.elim (0, []) signedArg
    (some (min x.natAbs widest), x < 0, rs, args.tail)

/-- A format printed once, with as many arguments as it takes. -/
def printOnce (e : Escapes) : List FormatPiece → List String → Formatted
  | [], args => ⟨.nothing, [], none, args⟩
  | .text p :: pieces, args =>
    if p.last then ⟨p, [], none, []⟩
    else
      let r := printOnce e pieces args
      { r with printed := p.append r.printed }
  | .unknown text :: _, args => ⟨.nothing, [], some (text, false), args⟩
  | .cut text :: _, args => ⟨.nothing, [], some (text, true), args⟩
  | .value k :: pieces, args =>
    let (width, left, widthRemarks, args) := k.width.resolve args
    let (precision, negative, precisionRemarks, args) := k.precision.resolve args
    let l : Layout :=
      { left := left || k.flags.contains '-'
        plus := k.flags.contains '+'
        space := k.flags.contains ' '
        alternate := k.flags.contains '#'
        zeros := k.flags.contains '0'
        width := width.getD 0
        precision := if negative then Option.none else precision }
    let (p, rs) := l.print e k.kind args.head?
    if p.last then ⟨p, widthRemarks ++ precisionRemarks ++ rs, none, []⟩
    else
      let r := printOnce e pieces args.tail
      { r with
        printed := p.append r.printed
        remarks := widthRemarks ++ precisionRemarks ++ rs ++ r.remarks }

/-- A format printed again and again, until there are no more arguments. `rounds` bounds
how often. -/
def printAll (e : Escapes) (pieces : List FormatPiece) : Nat → List String → Formatted
  | 0, args => ⟨.nothing, [], none, args⟩
  | rounds + 1, args =>
    let r := printOnce e pieces args
    if r.rest.isEmpty || r.rest.length = args.length || r.fault.isSome || r.printed.last then r
    else
      let more := printAll e pieces rounds r.rest
      { more with
        printed := r.printed.append more.printed, remarks := r.remarks ++ more.remarks }

/-- What `printf` prints with a format, given the escapes of formats and of values. -/
def formatted (inFormat inValue : Escapes) (format : String) (args : List String) : Formatted :=
  printAll inValue (formatPieces inFormat (format.length + 1) format.toList) (args.length + 1)
    args

end CrateGraph.Shell
