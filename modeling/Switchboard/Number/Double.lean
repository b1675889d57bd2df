import Switchboard.Number.Binary
/-!
Doubles as values: a pattern of 64 bits.

Products and quotients are the doubles nearest to the exact ones, so they are computed on the parts
of their operands. Signs are handled apart: the operations below work on magnitudes.
-/

namespace Switchboard.Number

/-- A double-precision number. -/
structure Double where
  bits : UInt64
  deriving DecidableEq, Repr, Inhabited

namespace Double

/-- The weight of the sign bit. -/
def signWeight : Nat := Nat.pow 2 63

/-- The pattern without the sign bit. -/
def magnitude (x : Double) : Nat := x.bits.toNat % signWeight

/-- Says whether the sign bit is set. -/
def isNegative (x : Double) : Bool := signWeight ≤ x.bits.toNat

/-- A number from its magnitude and sign. -/
def ofMagnitude (negative : Bool) (bits : Nat) : Double :=
  ⟨UInt64.ofNat (if negative then bits % signWeight + signWeight else bits % signWeight)⟩

/-- Positive zero. -/
def zero : Double := ⟨0⟩

def isZero (x : Double) : Bool := x.magnitude == 0

def isInfinite (x : Double) : Bool := x.magnitude == infinityBits

def isNaN (x : Double) : Bool := infinityBits < x.magnitude

/-- The number with the other sign. -/
def negate (x : Double) : Double := ofMagnitude (!x.isNegative) x.magnitude

/-- The double nearest to a natural number. -/
def ofNat (n : Nat) : Double := ofMagnitude false (nearestBits n 1)

/-- The double nearest to `10 ^ n`. -/
def powerOfTen (n : Nat) : Double := ofMagnitude false (nearestBits (Nat.pow 10 n) 1)

/-- The pattern of the double nearest to `num / den · 2 ^ q`. -/
def scaled (num den : Nat) (q : Int) : Nat :=
  nearestBits (num * Nat.pow 2 q.toNat) (den * Nat.pow 2 (-q).toNat)

/-- The product of two finite magnitudes. -/
def mul (x y : Double) : Double :=
  let (m, p) := parts x.magnitude
  let (n, q) := parts y.magnitude
  ofMagnitude false (scaled (m * n) 1 (p + q))

/-- The quotient of two finite magnitudes, the second not zero. -/
def div (x y : Double) : Double :=
  let (m, p) := parts x.magnitude
  let (n, q) := parts y.magnitude
  ofMagnitude false (scaled m n (p - q))

end Double

end Switchboard.Number
