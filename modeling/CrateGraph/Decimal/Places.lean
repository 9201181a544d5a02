import CrateGraph.Decimal.Shortest

/-!
# Doubles with a given number of places

A double is written with a given number of digits after the point, or with a given number
of significant digits and a power of ten. It is the exact value that is rounded, once; a tie
goes to the even digit.
-/

namespace CrateGraph.Decimal

/-- The digits of a number, with zeros in front up to a width. -/
def digitsOf (width n : Nat) : List Char := (Text.padded width n).toList

/-- A quotient with so many digits after the point: the digits before it and after it. -/
def placed (places num den : Nat) : List Char × List Char :=
  let n := Binary64.roundHalfEven (num * Nat.pow 10 places) den
  let digits := digitsOf (places + 1) n
  (digits.take (digits.length - places), digits.drop (digits.length - places))

/-- A positive quotient divided by a power of ten. -/
def unscaled (num den : Nat) (k : Int) : Nat × Nat :=
  let p := powerOfTen k
  (num * p.2, den * p.1)

/-- A quotient with one digit before the point and so many after it, and the power of
ten. -/
def scientific (places num den : Nat) : (List Char × List Char) × Int :=
  if num = 0 then (placed places 0 1, 0)
  else
    let k := integerDigits 1200 num den - 1
    let q := unscaled num den k
    match placed places q.1 q.2 with
    | ([d], rest) => (([d], rest), k)
    | _ =>
      let q := unscaled num den (k + 1)
      (placed places q.1 q.2, k + 1)

end CrateGraph.Decimal
