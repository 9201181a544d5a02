import CrateGraph.Text.Basic

/-!
# Numerals

The shell and its programs read whole numbers in decimal, and where they may be told apart,
in octal with a zero and in hexadecimal with `0x` in front. Numbers have 64 bits; one that
does not fit is read as the nearest one that does.
-/

namespace CrateGraph.Shell

/-- Whether a character is an octal digit. -/
def isOctal (c : Char) : Bool := '0' ≤ c && c ≤ '7'

/-- The value of a digit in bases up to sixteen. -/
def digitValue? (c : Char) : Option Nat :=
  if c.isDigit then some (c.toNat - '0'.toNat)
  else if 'a' ≤ c && c ≤ 'f' then some (c.toNat - 'a'.toNat + 10)
  else if 'A' ≤ c && c ≤ 'F' then some (c.toNat - 'A'.toNat + 10)
  else none

/-- Whether a character is a digit in a base. -/
def isDigitIn (base : Nat) (c : Char) : Bool := (digitValue? c).any (· < base)

/-- The number that digits stand for in a base. -/
def numberOf (base : Nat) (digits : List Char) : Nat :=
  digits.foldl (fun n c => n * base + (digitValue? c).getD 0) 0

/-- Whether a character is white space in ASCII. -/
def isSpace (c : Char) : Bool :=
  c = ' ' || (9 ≤ c.toNat && c.toNat ≤ 13)

/-- What has been read of a number. -/
structure Numeral where
  negative : Bool
  magnitude : Nat
  /-- Whether there was any digit. -/
  found : Bool
  /-- What follows the digits, or the whole text if there were none. -/
  rest : List Char

namespace Numeral

/-- The base of the number that digits begin, and the digits after what tells it. -/
def baseOf (cs : List Char) : Nat × List Char :=
  match cs with
  | '0' :: x :: d :: rest =>
    if (x = 'x' || x = 'X') && isDigitIn 16 d then (16, d :: rest) else (8, cs)
  | '0' :: _ => (8, cs)
  | _ => (10, cs)

/-- Reads a number, after white space, in decimal or in the base that it tells. -/
def read (anyBase : Bool) (cs : List Char) : Numeral :=
  let signed := cs.dropWhile isSpace
  let (negative, digits) := match signed with
    | '-' :: rest => (true, rest)
    | '+' :: rest => (false, rest)
    | rest => (false, rest)
  let (base, digits) := if anyBase then baseOf digits else (10, digits)
  let taken := digits.takeWhile (isDigitIn base)
  if taken.isEmpty then ⟨false, 0, false, cs⟩
  else ⟨negative, numberOf base taken, true, digits.drop taken.length⟩

/-- The greatest number with a sign. -/
def greatest : Int := 9223372036854775807

/-- The greatest number without a sign. -/
def greatestUnsigned : Nat := 18446744073709551615

/-- The number with its sign. -/
def exact (n : Numeral) : Int := if n.negative then -(n.magnitude : Int) else n.magnitude

/-- The number as one of 64 bits with a sign, and whether it fits. -/
def signed (n : Numeral) : Int × Bool :=
  let x := n.exact
  if x > greatest then (greatest, false)
  else if x < -greatest - 1 then (-greatest - 1, false)
  else (x, true)

/-- The number as one of 64 bits without a sign, and whether it fits. -/
def unsigned (n : Numeral) : Nat × Bool :=
  if n.magnitude > greatestUnsigned then (greatestUnsigned, false)
  else if n.negative && n.magnitude ≠ 0 then (greatestUnsigned + 1 - n.magnitude, true)
  else (n.magnitude, true)

end Numeral

/-- The number that a text is, with white space around it, if it is one and it fits. -/
def intOf? (anyBase : Bool) (s : String) : Option Int :=
  let n := Numeral.read anyBase s.toList
  let (x, fits) := n.signed
  if fits && n.found && n.rest.all isSpace then some x else none

/-- The number that a text of digits is, if it is not too great to count something. -/
def countOf? (s : String) : Option Nat :=
  match intOf? false s with
  | some (.ofNat n) => if n ≤ 2147483647 then some n else none
  | _ => none

/-- A number in the range of 64 bits with a sign, as far as its last 64 bits go. -/
def wrapped (x : Int) : Int := x.bmod 18446744073709551616

end CrateGraph.Shell
