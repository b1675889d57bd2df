/-!
Double-precision numbers and ratios of natural numbers.

A finite number other than zero is `m · 2 ^ q` with `m < 2 ^ 53` and `-1074 ≤ q ≤ 971`; where
`q` is not the least exponent, `2 ^ 52 ≤ m`.

* `nearestBits` gives the number nearest to a ratio, a tie going to the even neighbour, and infinity
  for ratios too large.
* `parts` takes a number apart again.
-/

namespace Switchboard.Number

/-- A quotient rounded to the nearest natural number, a half to the even neighbour. -/
def roundHalfEven (num den : Nat) : Nat :=
  let floor := num / den
  let twice := 2 * (num % den)
  if twice < den then floor
  else if den < twice then floor + 1
  else if floor % 2 = 0 then floor else floor + 1

/-- The least exponent of a double. -/
def leastExponent : Int := -1074

/-- The pattern of positive infinity. -/
def infinityBits : Nat := 0x7FF0000000000000

/-- The greatest `e` with `2 ^ e ≤ num / den`, for a positive ratio. -/
def floorLog2 (num den : Nat) : Int :=
  let guess : Int := (num.log2 : Int) - (den.log2 : Int)
  if den * Nat.pow 2 guess.toNat ≤ num * Nat.pow 2 (-guess).toNat then guess else guess - 1

/-- The pattern of `m · 2 ^ q`. -/
def packBits (m : Nat) (q : Int) : Nat :=
  if m < Nat.pow 2 52 then m
  else if m = Nat.pow 2 53 then
    if q ≥ 971 then infinityBits else (q + 1076).toNat * Nat.pow 2 52
  else if q > 971 then infinityBits
  else (q + 1075).toNat * Nat.pow 2 52 + (m - Nat.pow 2 52)

/-- The pattern of the double nearest to `num / den`, for a positive denominator. -/
def nearestBits (num den : Nat) : Nat :=
  if num = 0 then 0
  else
    let exponent := max (floorLog2 num den - 52) leastExponent
    if exponent > 971 then infinityBits
    else
      let rounded :=
        roundHalfEven (num * Nat.pow 2 (-exponent).toNat) (den * Nat.pow 2 exponent.toNat)
      packBits rounded exponent

/-- The pattern of the double nearest to `digits · 10 ^ exponent`. -/
def nearestDecimalBits (digits : Nat) (exponent : Int) : Nat :=
  let size : Int := (Nat.toDigits 10 digits).length + exponent
  if digits = 0 then 0
  else if size > 310 then infinityBits
  else if size < -330 then 0
  else nearestBits (digits * Nat.pow 10 exponent.toNat) (Nat.pow 10 (-exponent).toNat)

/-- The number `m` and the exponent `q` of a pattern without its sign bit. -/
def parts (bits : Nat) : Nat × Int :=
  let field : Nat := bits / Nat.pow 2 52 % 2048
  let fraction : Nat := bits % Nat.pow 2 52
  if field = 0 then (fraction, leastExponent) else (fraction + Nat.pow 2 52, (field : Int) - 1075)

end Switchboard.Number
