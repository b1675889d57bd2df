import Switchboard.Text.Basic
/-!
Decimal integers of bounded range.

A numeral is a run of ASCII digits with at most one sign before it. A minus sign is accepted only
where negative values are. Every way in which a text fails to be one has its own cause.
-/

namespace Switchboard.Number

/-- Why a text is not an integer of a range. -/
inductive IntegerFault where
  | empty
  | invalidDigit
  | tooLarge
  | tooSmall
  deriving DecidableEq, Repr

/-- The wording of a fault. -/
def IntegerFault.message : IntegerFault → String
  | .empty => "cannot parse integer from empty string"
  | .invalidDigit => "invalid digit found in string"
  | .tooLarge => "number too large to fit in target type"
  | .tooSmall => "number too small to fit in target type"

/-- The greatest value of 64 bits. -/
def maxWord : Nat := 18446744073709551615

/-- The value of an ASCII digit. -/
def digitValue? (c : Char) : Option Nat :=
  if 48 ≤ c.toNat ∧ c.toNat ≤ 57 then some (c.toNat - 48) else none

/-- The value of a run of digits after digits worth `value`. -/
def readDigits (value : Nat) : List Char → Option Nat
  | [] => some value
  | c :: rest => match digitValue? c with
    | some digit => readDigits (value * 10 + digit) rest
    | none => none

/-- Reads a run of digits up to a bound. The first fault from the left counts: digits beyond the
bound are not looked at. -/
def readBounded (bound : Nat) (excess : IntegerFault) (value : Nat) :
    List Char → Except IntegerFault Nat
  | [] => .ok value
  | c :: rest => match digitValue? c with
    | none => .error .invalidDigit
    | some digit =>
      let next := value * 10 + digit
      if next ≤ bound then readBounded bound excess next rest else .error excess

/-- Reads a natural number up to `bound`. -/
def readNat (bound : Nat) (text : String) : Except IntegerFault Nat :=
  match text.toList with
  | [] => .error .empty
  | [c] => if c == '+' || c == '-' then .error .invalidDigit else readBounded bound .tooLarge 0 [c]
  | c :: rest =>
    if c == '+' then readBounded bound .tooLarge 0 rest
    else readBounded bound .tooLarge 0 (c :: rest)

/-- Reads an integer from `-(bound + 1)` to `bound`. -/
def readInt (bound : Nat) (text : String) : Except IntegerFault Int :=
  match text.toList with
  | [] => .error .empty
  | [c] =>
    if c == '+' || c == '-' then .error .invalidDigit
    else (readBounded bound .tooLarge 0 [c]).map Int.ofNat
  | c :: rest =>
    if c == '+' then (readBounded bound .tooLarge 0 rest).map Int.ofNat
    else if c == '-' then (readBounded (bound + 1) .tooSmall 0 rest).map fun n => -(n : Int)
    else (readBounded bound .tooLarge 0 (c :: rest)).map Int.ofNat

/-- Reads a natural number of 64 bits. -/
def readWord (text : String) : Except IntegerFault Nat := readNat maxWord text

/-- Reads an integer of 64 bits. -/
def readInt64 (text : String) : Except IntegerFault Int := readInt 9223372036854775807 text

end Switchboard.Number
