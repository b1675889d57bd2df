import Switchboard.Number.Binary
/-!
The shortest decimal digits that read back.

The reals that round to a double form an interval around it, with its ends if the double is even.
Of all decimals in the interval the one with the fewest digits is taken, and of those with equally
many the nearest. Of two that are equally near a rule for ties takes one.

* `digitsOf` finds them for a positive finite number, as a natural number and a power of ten.
-/

namespace Switchboard.Number.Shortest

/-- Which of two neighbours stands for the number in the middle between them. -/
inductive Tie where
  | upper
  | even
  deriving DecidableEq, Repr

/-- Says whether a tie between `floor` and its successor goes to `floor`. -/
def Tie.isDown (tie : Tie) (floor : Nat) : Bool :=
  match tie with
  | .upper => false
  | .even => floor % 2 == 0

/-- A positive number and the ends of its interval, as ratios over one denominator. -/
structure Window where
  value : Nat
  low : Nat
  high : Nat
  den : Nat
  closed : Bool

/-- The interval of the reals that round to `m · 2 ^ q`. -/
def window (m : Nat) (q : Int) : Window :=
  let scale := Nat.pow 2 (q - 2).toNat
  let below := if m = Nat.pow 2 52 ∧ q > leastExponent then 1 else 2
  { value := 4 * m * scale
    low := (4 * m - below) * scale
    high := (4 * m + 2) * scale
    den := Nat.pow 2 (2 - q).toNat
    closed := m % 2 = 0 }

/-- Says whether `digits · 10 ^ exponent` lies in the interval. -/
def Window.contains (w : Window) (digits : Nat) (exponent : Int) : Bool :=
  let candidate := digits * Nat.pow 10 exponent.toNat * w.den
  let low := w.low * Nat.pow 10 (-exponent).toNat
  let high := w.high * Nat.pow 10 (-exponent).toNat
  if w.closed then low ≤ candidate && candidate ≤ high else low < candidate && candidate < high

/-- The least `j` up to `fuel` with `1 ≤ num · 10 ^ j / den`, counting from `start`. -/
def leadingZeros (num den : Nat) : Nat → Nat → Nat
  | 0, start => start
  | fuel + 1, start =>
    if den ≤ num * Nat.pow 10 start then start else leadingZeros num den fuel (start + 1)

/-- The exponent of the leading digit. -/
def Window.leading (w : Window) : Int :=
  if w.den ≤ w.value then ((Nat.toDigits 10 (w.value / w.den)).length : Int) - 1
  else -(leadingZeros w.value w.den 400 0 : Int)

/-- The decimal with last place `10 ^ exponent` that lies in the interval, if there is one. -/
def Window.onGrid (tie : Tie) (w : Window) (exponent : Int) : Option Nat :=
  let num := w.value * Nat.pow 10 (-exponent).toNat
  let den := w.den * Nat.pow 10 exponent.toNat
  let floor := num / den
  let below := w.contains floor exponent && 0 < floor
  let above := w.contains (floor + 1) exponent
  let rest := 2 * (num % den)
  let isDown := rest < den || rest == den && tie.isDown floor
  if below && above then (if isDown then some floor else some (floor + 1))
  else if below then some floor
  else if above then some (floor + 1)
  else none

/-- Tries finer and finer grids. -/
def search (tie : Tie) (w : Window) : Nat → Int → Nat × Int
  | 0, exponent =>
    (w.value * Nat.pow 10 (-exponent).toNat / (w.den * Nat.pow 10 exponent.toNat), exponent)
  | fuel + 1, exponent => match w.onGrid tie exponent with
    | some digits => (digits, exponent)
    | none => search tie w fuel (exponent - 1)

/-- Moves zeros at the end of the digits into the power of ten. -/
def dropZeros : Nat → Nat × Int → Nat × Int
  | 0, decimal => decimal
  | fuel + 1, (digits, exponent) =>
    if digits % 10 = 0 ∧ digits ≠ 0 then dropZeros fuel (digits / 10, exponent + 1)
    else (digits, exponent)

/-- Digits and power of ten of the positive finite number with the given pattern. -/
def digitsOf (tie : Tie) (bits : Nat) : Nat × Int :=
  let (m, q) := parts bits
  let w := window m q
  dropZeros 17 (search tie w 17 w.leading)

end Switchboard.Number.Shortest
