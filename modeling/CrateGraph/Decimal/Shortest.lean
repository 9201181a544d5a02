import CrateGraph.Decimal.Binary64
import CrateGraph.Text.Basic

/-!
# The shortest decimal that reads back

A double is written with the fewest significant digits that still round to it, and of
those with the ones nearest to its value. The search tries one digit, then two, and so on:
on the grid of decimals with so many digits only the two neighbours of the value can lie
among the reals that round to it.

How the digits are laid out is a choice of each text format, held in a `Layout`.
-/

namespace CrateGraph.Decimal

/-- The reals that round to a double, between two quotients with one denominator. The ends
belong to them when the mantissa is even. -/
structure Interval where
  low : Nat
  value : Nat
  high : Nat
  denominator : Nat
  closed : Bool

/-- The reals that round to a positive finite double. Below a power of two the next double
is half as far away as above it. -/
def Interval.ofFinite (mantissa : Nat) (exponent : Int) : Interval :=
  let q := Binary64.quotient mantissa exponent
  let unit := Binary64.quotient 1 exponent
  let below :=
    if mantissa = Binary64.fullMantissa && exponent ≠ Binary64.leastExponent then 1 else 2
  { low := 4 * q.1 - below * unit.1
    value := 4 * q.1
    high := 4 * q.1 + 2 * unit.1
    denominator := 4 * q.2
    closed := mantissa % 2 = 0 }

/-- Whether a quotient lies in the interval. -/
def Interval.contains (i : Interval) (num den : Nat) : Bool :=
  let x := num * i.denominator
  if i.closed then i.low * den ≤ x && x ≤ i.high * den
  else i.low * den < x && x < i.high * den

/-- `10 ^ k` as a quotient. -/
def powerOfTen (k : Int) : Nat × Nat :=
  match k with
  | .ofNat n => (Nat.pow 10 n, 1)
  | .negSucc n => (1, Nat.pow 10 (n + 1))

/-- The number of digits before the point of a positive quotient; for one below a tenth,
less the zeros right after the point. `steps` bounds those zeros. -/
def integerDigits (steps num den : Nat) : Int :=
  if num ≥ den then Binary64.decimalLength (num / den)
  else match steps with
    | 0 => 0
    | n + 1 => if 10 * num ≥ den then 0 else integerDigits n (10 * num) den - 1

/-- The neighbour on the grid `10 ^ k` that lies in the interval, the nearer of two. -/
def onGrid (i : Interval) (k : Int) : Option Nat :=
  let p := powerOfTen k
  let d := i.value * p.2 / (i.denominator * p.1)
  let inside := fun n => n ≠ 0 && i.contains (n * p.1) p.2
  match inside d, inside (d + 1) with
  | true, true =>
    let target := 2 * i.value * p.2
    if target < (2 * d + 1) * p.1 * i.denominator then some d
    else if target = (2 * d + 1) * p.1 * i.denominator && d % 2 = 0 then some d
    else some (d + 1)
  | true, false => some d
  | false, true => some (d + 1)
  | false, false => none

/-- Drops the zeros at the end of a number, raising the exponent by one for each. `steps`
bounds them. -/
def dropZeros : Nat → Nat → Int → Nat × Int
  | 0, d, k => (d, k)
  | n + 1, d, k => if d % 10 = 0 && d ≠ 0 then dropZeros n (d / 10) (k + 1) else (d, k)

/-- Tries grids with `digits` digits and more; seventeen always suffice. -/
def search (i : Interval) (whole : Int) : Nat → Nat → Nat × Int
  | 0, digits => (i.value / i.denominator, whole - digits)
  | left + 1, digits =>
    match onGrid i (whole - digits) with
    | some d => dropZeros 20 d (whole - digits)
    | none => search i whole left (digits + 1)

/-- The digits of a positive finite double and the power of ten they are multiplied by. -/
def shortest (mantissa : Nat) (exponent : Int) : Nat × Int :=
  let i := Interval.ofFinite mantissa exponent
  search i (integerDigits 400 i.value i.denominator) 17 1

/-- How a text format lays out the digits of a number. -/
structure Layout where
  /-- Whether digits whose first has the weight `10 ^ k` are written without an exponent. -/
  positional : Int → Bool
  /-- The exponent of a number that is not. -/
  exponent : Int → String
  /-- Not a number. -/
  nan : String
  /-- Infinity without its sign. -/
  infinity : String

/-- Zeros in a row. -/
def zeros (n : Nat) : String := String.ofList (List.replicate n '0')

/-- A text cut after some characters. -/
def splitText (n : Nat) (s : String) : String × String :=
  (String.ofList (s.toList.take n), String.ofList (s.toList.drop n))

/-- Digits and a power of ten in a layout, always with a point or an exponent. -/
def Layout.digits (l : Layout) (d : Nat) (k : Int) : String :=
  let text := toString d
  let length := text.length
  let weight : Int := k + length - 1
  if l.positional weight then
    if k ≥ 0 then text ++ zeros k.toNat ++ ".0"
    else if weight ≥ 0 then
      let s := splitText (weight.toNat + 1) text
      s.1 ++ "." ++ s.2
    else "0." ++ zeros (-weight - 1).toNat ++ text
  else
    let s := splitText 1 text
    s.1 ++ (if s.2 = "" then "" else "." ++ s.2) ++ "e" ++ l.exponent weight

/-- A double in a layout. -/
def Layout.render (l : Layout) : Binary64 → String
  | .nan => l.nan
  | .infinite s => (if s then "-" else "") ++ l.infinity
  | .finite s 0 _ => (if s then "-" else "") ++ "0.0"
  | .finite s m e =>
    let r := shortest m e
    (if s then "-" else "") ++ l.digits r.1 r.2

/-- Every finite number written out in full. -/
def Layout.plain : Layout where
  positional := fun _ => true
  exponent := fun _ => ""
  nan := "NaN"
  infinity := "inf"

/-- Numbers from a hundred-thousandth up to ten to the sixteenth written out; others with a
signed exponent of at least two digits. -/
def Layout.scientific : Layout where
  positional := fun w => -5 ≤ w && w < 16
  exponent := fun w => (if w < 0 then "-" else "+") ++ Text.padded 2 w.natAbs
  nan := "null"
  infinity := "null"

end CrateGraph.Decimal
