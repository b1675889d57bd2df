import Switchboard.Number.Double
import Switchboard.Number.Integer
/-!
Decimal fractions, read as double-precision numbers.

A numeral has digits, on either side of a point if there is one, and may end in an exponent. The
words for infinity and for no number are accepted in any case. The value is the nearest double.
-/

namespace Switchboard.Number

/-- Why a text is not a decimal fraction. -/
inductive RealFault where
  | empty
  | invalid
  deriving DecidableEq, Repr

/-- The wording of a fault. -/
def RealFault.message : RealFault → String
  | .empty => "cannot parse float from empty string"
  | .invalid => "invalid float literal"

/-- Splits off the leading digits. -/
def spanDigits (text : List Char) : List Char × List Char :=
  text.span fun c => (digitValue? c).isSome

/-- The value of a list of characters that are all digits. -/
def digitsValue (digits : List Char) : Nat := (readDigits 0 digits).getD 0

/-- Reads what follows the digits: nothing, or an exponent. -/
def readExponent : List Char → Option Int
  | [] => some 0
  | c :: rest =>
    if c == 'e' || c == 'E' then
      let (negative, digits) := match rest with
        | '-' :: digits => (true, digits)
        | '+' :: digits => (false, digits)
        | digits => (false, digits)
      if digits.isEmpty then none
      else (readDigits 0 digits).map fun n => if negative then -(n : Int) else n
    else none

/-- Reads a numeral without a sign, as digits and a power of ten. -/
def readScientific (text : List Char) : Option (Nat × Int) :=
  let (whole, rest) := spanDigits text
  let (fraction, rest) := match rest with
    | '.' :: rest => spanDigits rest
    | rest => ([], rest)
  if whole.isEmpty && fraction.isEmpty then none
  else (readExponent rest).map fun exponent =>
    (digitsValue (whole ++ fraction), exponent - fraction.length)

/-- The pattern of a numeral without a sign. -/
def readMagnitude (text : List Char) : Option Nat :=
  let word := String.ofList (text.map Char.toLower)
  if word = "inf" || word = "infinity" then some infinityBits
  else if word = "nan" then some 0x7FF8000000000000
  else (readScientific text).map fun (digits, exponent) => nearestDecimalBits digits exponent

/-- Reads a decimal fraction. -/
def readReal (text : String) : Except RealFault Double :=
  let (negative, body) := match text.toList with
    | '-' :: body => (true, body)
    | '+' :: body => (false, body)
    | body => (false, body)
  if text.toList.isEmpty then .error .empty
  else match readMagnitude body with
    | none => .error .invalid
    | some bits => .ok (Double.ofMagnitude negative bits)

end Switchboard.Number
