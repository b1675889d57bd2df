import Switchboard.Text.Basic
/-!
How tables of characters are kept.

A property is a list of ranges. A map is a list of runs, each of which goes the same distance, or of
rows of text: a code point, a sign and the code points that stand for it, all in hexadecimal digits.
-/

namespace Switchboard.Text.Table

/-- Says whether a code point lies in one of the ranges. -/
def within (ranges : List (Nat × Nat)) (code : Nat) : Bool :=
  ranges.any fun (first, last) => first ≤ code && code ≤ last

/-- What a list of ranges with values gives for a code point. -/
def valueAt? (runs : List (Nat × Nat × α)) (code : Nat) : Option α :=
  (runs.find? fun (first, last, _) => first ≤ code && code ≤ last).map fun (_, _, value) => value

/-- Code points from `first` to `last` in equal steps, each of which is mapped `shift` further. -/
structure Run where
  first : Nat
  last : Nat
  stride : Nat
  shift : Int

/-- Says whether a code point belongs to a run. -/
def Run.holds (run : Run) (code : Nat) : Bool :=
  run.first ≤ code && code ≤ run.last && (code - run.first) % run.stride == 0

/-- The code point that a list of runs maps another one to. -/
def shifted? (runs : List Run) (code : Nat) : Option Nat :=
  (runs.find? fun run => run.holds code).map fun run => ((code : Int) + run.shift).toNat

/-- A code point and those that stand for it. -/
structure Row where
  code : Nat
  parts : List Nat

/-- The number of hexadecimal digits. -/
def codeOf (digits : List Char) : Nat :=
  digits.foldl (fun code c => code * 16 + (hexValue? c).getD 0) 0

/-- Reads a row. -/
def readRow (text : List Char) : Row :=
  match cutAt '>' text with
  | some (code, parts) => ⟨codeOf code, (splitOn '.' parts).map codeOf⟩
  | none => ⟨codeOf text, []⟩

/-- Reads lines of rows with a blank between them. -/
def readRows (lines : List String) : List Row :=
  lines.flatMap fun line => (splitOn ' ' line.toList).map readRow

/-- What stands for a code point. -/
def partsOf? (rows : List Row) (code : Nat) : Option (List Nat) :=
  (rows.find? fun row => row.code == code).map Row.parts

end Switchboard.Text.Table
