import Switchboard.Text.Basic
/-!
Spans of time, in whole nanoseconds.

A span is described in the greatest unit of which it holds at least one (seconds, milliseconds,
microseconds, nanoseconds), with the fraction that is left and no zeros at its end.
-/

namespace Switchboard

/-- A length of virtual time. -/
structure Span where
  nanos : Nat
  deriving DecidableEq, Repr, Inhabited

namespace Span

instance : Add Span := ⟨fun a b => ⟨a.nanos + b.nanos⟩⟩

/-- What is left of a span after another; nothing if the other is longer. -/
instance : Sub Span := ⟨fun a b => ⟨a.nanos - b.nanos⟩⟩

instance : LE Span := ⟨fun a b => a.nanos ≤ b.nanos⟩

instance (a b : Span) : Decidable (a ≤ b) := inferInstanceAs (Decidable (a.nanos ≤ b.nanos))

instance : Min Span := ⟨fun a b => if a ≤ b then a else b⟩

/-- No time at all. -/
def zero : Span := ⟨0⟩

theorem le_iff {a b : Span} : a ≤ b ↔ a.nanos ≤ b.nanos := Iff.rfl

@[simp] theorem nanos_add (a b : Span) : (a + b).nanos = a.nanos + b.nanos := rfl

@[simp] theorem nanos_sub (a b : Span) : (a - b).nanos = a.nanos - b.nanos := rfl

@[simp] theorem nanos_min (a b : Span) : (min a b).nanos = min a.nanos b.nanos := by
  show (if a.nanos ≤ b.nanos then a else b).nanos = _
  split <;> omega

/-- A number of milliseconds. -/
def ofMillis (n : Nat) : Span := ⟨n * 1000000⟩

/-- A number of seconds. -/
def ofSeconds (n : Nat) : Span := ⟨n * 1000000000⟩

/-- The whole milliseconds in a span. -/
def millis (span : Span) : Nat := span.nanos / 1000000

/-- The digits of a fraction with `places` places, without zeros at the end. -/
def fraction (places rest : Nat) : List Char :=
  let digits := Nat.toDigits 10 rest
  let padded := List.replicate (places - digits.length) '0' ++ digits
  Text.dropEndWhile (· == '0') padded

/-- A span as a number of one unit of `10 ^ places` nanoseconds. -/
def inUnit (span : Span) (places : Nat) (unit : String) : String :=
  let whole := Text.decimal (span.nanos / Nat.pow 10 places)
  let rest := span.nanos % Nat.pow 10 places
  if rest = 0 then whole ++ unit
  else whole ++ "." ++ String.ofList (fraction places rest) ++ unit

/-- The description of a span. -/
def text (span : Span) : String :=
  if 1000000000 ≤ span.nanos then span.inUnit 9 "s"
  else if 1000000 ≤ span.nanos then span.inUnit 6 "ms"
  else if 1000 ≤ span.nanos then span.inUnit 3 "µs"
  else span.inUnit 0 "ns"

end Span

end Switchboard
