import Switchboard.Text.Table.Composite
import Switchboard.Text.Table.Mark
/-!
Composed text.

A letter with marks can be written as one character or as several, and marks of different classes in
any order. In composed text every character is first taken apart, the marks after a letter are put
in the order of their classes, and then each mark that can be is put together with its letter, unless
a mark of its own class stands between them.

Characters that never stand in composed text, although they mean the same as others, are not taken
apart: they do not occur where this form is used.

* `decompose` takes a character apart.
* `arrange` puts marks in order.
* `compose` is the composed form of a text.
-/

namespace Switchboard.Text.Composed

open Table

/-- The class of a character among marks; zero if it is none that moves. -/
def markClass (c : Char) : Nat :=
  if c.toNat < 0x300 then 0 else (valueAt? combiningRuns c.toNat).getD 0

/-! ### Syllables -/

/-- The first syllable of Hangul. -/
def firstSyllable : Nat := 0xAC00

/-- The number of syllables that begin with one consonant. -/
def syllablesOfLead : Nat := 588

/-- The number of syllables that begin with one consonant and one vowel: each consonant at the end
and none. -/
def syllablesOfVowel : Nat := 28

/-- Says whether a code point is a syllable of Hangul. -/
def isSyllable (code : Nat) : Bool := firstSyllable ≤ code && code < firstSyllable + 11172

/-- The letters of a syllable. -/
def lettersOf (code : Nat) : List Char :=
  let index := code - firstSyllable
  let last := index % syllablesOfVowel
  [Char.ofNat (0x1100 + index / syllablesOfLead),
    Char.ofNat (0x1161 + index % syllablesOfLead / syllablesOfVowel)]
    ++ (if last = 0 then [] else [Char.ofNat (0x11A7 + last)])

/-- The syllable of two parts: a consonant and a vowel, or a syllable without a consonant at its end
and a consonant. -/
def syllable? (first second : Nat) : Option Nat :=
  if 0x1100 ≤ first ∧ first < 0x1113 ∧ 0x1161 ≤ second ∧ second < 0x1176 then
    some (firstSyllable + (first - 0x1100) * syllablesOfLead + (second - 0x1161) * syllablesOfVowel)
  else if isSyllable first ∧ (first - firstSyllable) % syllablesOfVowel = 0 ∧ 0x11A7 < second
      ∧ second < 0x11C3 then
    some (first + (second - 0x11A7))
  else none

/-! ### Taking apart -/

/-- Takes a character apart, in at most `fuel` steps one after the other. -/
def decomposeWithin : Nat → Char → List Char
  | 0, c => [c]
  | fuel + 1, c =>
    if c.toNat < 0xC0 then [c]
    else if isSyllable c.toNat then lettersOf c.toNat
    else match partsOf? composites c.toNat with
      | some (first :: rest) => decomposeWithin fuel (Char.ofNat first) ++ rest.map Char.ofNat
      | _ => [c]

/-- Takes a character apart. -/
def decompose (c : Char) : List Char := decomposeWithin 4 c

/-! ### Order of marks -/

/-- Puts a character before a text in reverse order, behind the marks of higher classes. -/
def place (c : Char) : List Char → List Char
  | [] => [c]
  | d :: rest =>
    if markClass c ≠ 0 ∧ markClass c < markClass d then d :: place c rest else c :: d :: rest

/-- A text with the marks after each letter in the order of their classes. -/
def arrange (text : List Char) : List Char :=
  (text.foldl (fun placed c => place c placed) []).reverse

/-! ### Putting together -/

/-- The character that stands for two in composed text. -/
def pair? (first second : Char) : Option Char :=
  match syllable? first.toNat second.toNat with
  | some code => some (Char.ofNat code)
  | none =>
    (composites.find? fun row => row.parts == [first.toNat, second.toNat]).map fun row =>
      Char.ofNat row.code

/-- A text of which the beginning has been put together: what comes before the last letter and the
marks after it, both in reverse order. -/
structure Front where
  before : List Char
  letter : Option Char
  marks : List Char

namespace Front

/-- The text so far, in reverse order. -/
def reversed (front : Front) : List Char := front.marks ++ front.letter.toList ++ front.before

/-- Says whether nothing keeps a character of the given class apart from the last letter. -/
def isOpen (front : Front) (next : Nat) : Bool :=
  match front.marks with
  | [] => true
  | mark :: _ => markClass mark < next

/-- Adds a character without putting it together with another one. -/
def push (front : Front) (c : Char) : Front :=
  if markClass c = 0 then { before := front.reversed, letter := some c, marks := [] }
  else { front with marks := c :: front.marks }

/-- Adds a character. -/
def add (front : Front) (c : Char) : Front :=
  match front.letter with
  | some letter =>
    match if front.isOpen (markClass c) then pair? letter c else none with
    | some whole => { front with letter := some whole }
    | none => front.push c
  | none => front.push c

end Front

/-- The composed form of a text. -/
def compose (text : List Char) : List Char :=
  if text.all fun c => c.toNat < 0xC0 then text
  else
    let start : Front := { before := [], letter := none, marks := [] }
    ((arrange (text.flatMap decompose)).foldl Front.add start).reversed.reverse

end Switchboard.Text.Composed
