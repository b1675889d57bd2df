import Switchboard.Number.Double
import Switchboard.Number.Shortest
/-!
The text of doubles.

A double is written by the fewest digits that read back. Small and large numbers are written with an
exponent, the others with a point, and a number with a point has a digit after it.
-/

namespace Switchboard.Number

/-- Where numbers are written with a point, and how exponents are written. -/
structure DoubleForm where
  /-- The least decimal exponent of a number that is written with a point. -/
  least : Int
  /-- The first decimal exponent above those of numbers that are written with a point. -/
  beyond : Int
  /-- The mark of an exponent that is not negative. -/
  plus : List Char
  /-- Which of two shortest texts that are equally near is taken. -/
  tie : Shortest.Tie
  deriving DecidableEq, Repr

namespace Double

/-- Digits with a point after the leading digits that the exponent asks for. -/
def placePoint (digits : List Char) (exponent : Int) : List Char :=
  if exponent < 0 then
    '0' :: '.' :: List.replicate ((-exponent).toNat - 1) '0' ++ digits
  else
    let whole := exponent.toNat + 1
    if digits.length ≤ whole then
      digits ++ List.replicate (whole - digits.length) '0' ++ ['.', '0']
    else digits.take whole ++ '.' :: digits.drop whole

/-- Digits with a point after the first one, and the exponent. -/
def withExponent (form : DoubleForm) (digits : List Char) (exponent : Int) : List Char :=
  let body := match digits with
    | first :: second :: rest => first :: '.' :: second :: rest
    | digits => digits
  let sign := if exponent < 0 then ['-'] else form.plus
  body ++ 'e' :: sign ++ Nat.toDigits 10 exponent.natAbs

/-- The text of a finite double. -/
def write (form : DoubleForm) (x : Double) : String :=
  let sign := if x.isNegative then ['-'] else []
  if x.isZero then String.ofList (sign ++ ['0', '.', '0'])
  else
    let (digits, last) := Shortest.digitsOf form.tie x.magnitude
    let chars := Nat.toDigits 10 digits
    let exponent := last + chars.length - 1
    let body := if form.least ≤ exponent ∧ exponent < form.beyond then placePoint chars exponent
      else withExponent form chars exponent
    String.ofList (sign ++ body)

/-- How doubles stand in descriptions. -/
def described : DoubleForm := { least := -4, beyond := 16, plus := [], tie := .upper }

/-- A description of a double. -/
def text (x : Double) : String :=
  if x.isNaN then "NaN"
  else if x.isInfinite then if x.isNegative then "-inf" else "inf"
  else x.write described

end Double

end Switchboard.Number
