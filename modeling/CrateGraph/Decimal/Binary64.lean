/-!
# Double-precision numbers

A double is a sign, a mantissa and a power of two, or one of the values that are no
number. Every operation computes the exact quotient of two natural numbers and rounds it
once, to the nearest double, a tie to the even mantissa. Nothing here goes through the
machine's own floating point, so a value can be compared and computed with in proofs.
-/

namespace CrateGraph

/-- A double-precision number. The finite value is `mantissa * 2 ^ exponent`, where the
mantissa has at most 53 bits, and fewer only at the least exponent, -1074. -/
inductive Binary64 where
  | nan
  | infinite (negative : Bool)
  | finite (negative : Bool) (mantissa : Nat) (exponent : Int)
deriving DecidableEq, Repr

namespace Binary64

/-- The least exponent of a finite double. -/
def leastExponent : Int := -1074

/-- The greatest exponent of a finite double. -/
def greatestExponent : Int := 971

/-- The least mantissa of 53 bits. -/
def fullMantissa : Nat := 4503599627370496

/-- Zero, which has a sign. -/
def zero (negative : Bool) : Binary64 := .finite negative 0 leastExponent

/-- `num / den / 2 ^ e` as a quotient of natural numbers. -/
def scaled (num den : Nat) (e : Int) : Nat × Nat :=
  match e with
  | .ofNat k => (num, den <<< k)
  | .negSucc k => (num <<< (k + 1), den)

/-- A quotient of natural numbers rounded to the nearest natural number, a half to the
even one. -/
def roundHalfEven (num den : Nat) : Nat :=
  let q := num / den
  let twice := 2 * (num % den)
  if twice < den || (twice = den && q % 2 = 0) then q else q + 1

/-- The exponent at which the integer part of a positive quotient has 53 bits, or the
least exponent if that is greater. -/
def exponentOf (num den : Nat) : Int :=
  let e : Int := (Nat.log2 num : Int) - (Nat.log2 den : Int) - 52
  let s := scaled num den e
  max leastExponent (if s.1 / s.2 < fullMantissa then e - 1 else e)

/-- The double nearest to a quotient. -/
def ofQuotient (negative : Bool) (num den : Nat) : Binary64 :=
  if num = 0 then zero negative
  else
    let e := exponentOf num den
    let s := scaled num den e
    let m := roundHalfEven s.1 s.2
    let r := if m = 2 * fullMantissa then (fullMantissa, e + 1) else (m, e)
    if r.2 > greatestExponent then .infinite negative else .finite negative r.1 r.2

/-- The double nearest to a natural number. -/
def ofNat (negative : Bool) (n : Nat) : Binary64 := ofQuotient negative n 1

/-- The number of decimal digits of a natural number. -/
def decimalLength (n : Nat) : Nat := (Nat.toDigits 10 n).length

/-- The double nearest to `significand * 10 ^ exponent`. Outside of what doubles reach, the
power itself is not computed. -/
def ofDecimal (negative : Bool) (significand : Nat) (exponent : Int) : Binary64 :=
  let magnitude := exponent + decimalLength significand
  if significand = 0 then zero negative
  else if magnitude > 400 then .infinite negative
  else if magnitude < -400 then zero negative
  else match exponent with
    | .ofNat k => ofQuotient negative (significand * Nat.pow 10 k) 1
    | .negSucc k => ofQuotient negative significand (Nat.pow 10 (k + 1))

/-- A finite double of either sign as a quotient, without its sign. -/
def quotient (mantissa : Nat) (exponent : Int) : Nat × Nat :=
  match exponent with
  | .ofNat k => (mantissa <<< k, 1)
  | .negSucc k => (mantissa, 1 <<< (k + 1))

/-- The product of a double with a positive natural number that has the given nearest
double. -/
def scaleUp (x : Binary64) (factor : Nat) : Binary64 :=
  match x, ofNat false factor with
  | .finite s m e, .finite _ m' e' =>
    let a := quotient m e
    let b := quotient m' e'
    ofQuotient s (a.1 * b.1) (a.2 * b.2)
  | .finite s _ _, _ => .infinite s
  | x, _ => x

/-- The quotient of a double by a positive natural number that has the given nearest
double. -/
def scaleDown (x : Binary64) (divisor : Nat) : Binary64 :=
  match x, ofNat false divisor with
  | .finite s m e, .finite _ m' e' =>
    let a := quotient m e
    let b := quotient m' e'
    ofQuotient s (a.1 * b.2) (a.2 * b.1)
  | .finite s _ _, _ => zero s
  | x, _ => x

/-- The double with the other sign. -/
def neg : Binary64 → Binary64
  | .nan => .nan
  | .infinite s => .infinite (!s)
  | .finite s m e => .finite (!s) m e

/-- Whether the double is zero, of either sign. -/
def isZero : Binary64 → Bool
  | .finite _ 0 _ => true
  | _ => false

/-- Whether the double is an infinity. -/
def isInfinite : Binary64 → Bool
  | .infinite _ => true
  | _ => false

end Binary64

end CrateGraph
