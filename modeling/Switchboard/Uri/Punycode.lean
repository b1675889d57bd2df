import Switchboard.Text.Basic
/-!
Labels of domain names in ASCII.

The characters beyond ASCII of a label are written after the others as a run of distances, each from
the place of the one before in the order of code point and position. A distance is written in
digits of base 36 whose weights depend on the distances seen so far.
-/

namespace Switchboard.Punycode

/-- The character for a digit below 36. -/
def digit (n : Nat) : Char := if n < 26 then Char.ofNat (97 + n) else Char.ofNat (22 + n)

/-- The value of a digit, in either case. -/
def value? (c : Char) : Option Nat :=
  let n := c.toNat
  if 97 ≤ n ∧ n ≤ 122 then some (n - 97)
  else if 65 ≤ n ∧ n ≤ 90 then some (n - 65)
  else if 48 ≤ n ∧ n ≤ 57 then some (n - 22)
  else none

/-- The bound below which the digit at position `k` is the last one. -/
def threshold (k bias : Nat) : Nat :=
  if k ≤ bias then 1 else if bias + 26 ≤ k then 26 else k - bias

/-- Divides by 35 until the bound of the bias is met, in at most `fuel` steps. -/
def shrink : Nat → Nat → Nat → Nat × Nat
  | 0, delta, k => (delta, k)
  | fuel + 1, delta, k => if 455 < delta then shrink fuel (delta / 35) (k + 36) else (delta, k)

/-- The bias after a distance. -/
def adapt (delta points : Nat) (first : Bool) : Nat :=
  let damped := if first then delta / 700 else delta / 2
  let (delta, k) := shrink 64 (damped + damped / points) 0
  k + 36 * delta / (delta + 38)

/-- The digits of a distance. -/
def writeDistance (bias : Nat) : Nat → Nat → Nat → List Char
  | 0, _, _ => []
  | fuel + 1, k, q =>
    let t := threshold k bias
    if q < t then [digit q]
    else digit (t + (q - t) % (36 - t)) :: writeDistance bias fuel (k + 36) ((q - t) / (36 - t))

/-- What has been written, the running distance, the bias and the number of points written. -/
structure Progress where
  written : List Char
  delta : Nat
  bias : Nat
  points : Nat

/-- Passes one character of the label while the points at `code` are written. -/
def passChar (basic code : Nat) (state : Progress) (c : Char) : Progress :=
  if c.toNat < code then { state with delta := state.delta + 1 }
  else if c.toNat = code then
    { written := state.written ++ writeDistance state.bias 64 36 state.delta
      delta := 0
      bias := adapt state.delta (state.points + 1) (state.points == basic)
      points := state.points + 1 }
  else state

/-- Writes the points of one code after another; `code` is the next one in question. -/
def writePoints (label : List Char) (basic : Nat) : List Nat → Nat → Progress → Progress
  | [], _, state => state
  | next :: codes, code, state =>
    let reached := { state with delta := state.delta + (next - code) * (state.points + 1) }
    let passed := label.foldl (passChar basic next) reached
    writePoints label basic codes (next + 1) { passed with delta := passed.delta + 1 }

/-- The distinct codes beyond ASCII of a label, in increasing order. -/
def codesOf (label : List Char) : List Nat :=
  let codes := (label.map Char.toNat).filter fun n => 0x80 ≤ n
  (codes.mergeSort fun a b => a ≤ b).eraseDups

/-- A label in ASCII, without the mark of such labels. -/
def encode (label : List Char) : List Char :=
  let basic := label.filter fun c => c.toNat < 0x80
  let start := if basic.isEmpty then [] else basic ++ ['-']
  (writePoints label basic.length (codesOf label) 0x80
    { written := start, delta := 0, bias := 72, points := basic.length }).written

/-- The greatest distance and the greatest weight of a digit. -/
def maxDistance : Nat := 4294967295

/-- Reads a distance: its value and the digits after it. -/
def readDistance (bias : Nat) (i w k : Nat) : List Char → Option (Nat × List Char)
  | [] => none
  | c :: rest => do
    let d ← value? c
    let i := i + d * w
    guard (i ≤ maxDistance)
    let t := threshold k bias
    if d < t then return (i, rest)
    else
      guard (w * (36 - t) ≤ maxDistance)
      readDistance bias i (w * (36 - t)) (k + 36) rest

/-- Reads points into a label, of which each uses at least one digit. -/
def readPoints : Nat → List Char → Nat → Nat → Nat → List Char → Option (List Char)
  | 0, _, _, _, _, label => some label
  | fuel + 1, rest, n, i, bias, label =>
    if rest.isEmpty then some label
    else do
      let (next, rest) ← readDistance bias i 1 36 rest
      let size := label.length + 1
      let code := n + next / size
      let place := next % size
      guard (code < 0x110000 ∧ ¬ (0xD800 ≤ code ∧ code < 0xE000))
      readPoints fuel rest code (place + 1) (adapt (next - i) size (i == 0))
        (label.take place ++ Char.ofNat code :: label.drop place)

/-- Reads a label without its mark. A sign that separates nothing from the digits counts as one of
them, which it cannot be. -/
def decode? (text : List Char) : Option (List Char) :=
  let tail := (text.reverse.takeWhile (· != '-')).reverse
  let basic := text.take (text.length - tail.length - 1)
  let digits := if basic = [] then text else tail
  readPoints (digits.length + 1) digits 0x80 0 72 basic

end Switchboard.Punycode
