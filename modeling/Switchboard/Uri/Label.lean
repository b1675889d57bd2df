import Switchboard.Text.Composed
import Switchboard.Text.Table.Folded
import Switchboard.Text.Table.Joining
import Switchboard.Uri.Punycode
/-!
Labels of domain names.

Names are compared in a folded form: every character is replaced by what stands for it, and the text
is composed. A label in that form does not begin with a mark, and a joiner, which shows only in the
shape of its neighbours, stands where it makes a difference. Labels beyond ASCII are written in
ASCII with a mark in front, and a label that comes with the mark has to be what such writing
produces.

* `Label.foldChar?` is what stands for a character.
* `Label.read?` reads a folded label.
-/

namespace Switchboard

/-- A label of a domain name. -/
structure Label where
  /-- The label in all of Unicode. -/
  points : List Char
  /-- The label in ASCII. -/
  text : List Char
  deriving DecidableEq, Repr

namespace Label

open Text Text.Table

/-! ### Characters -/

/-- Says whether a text is in ASCII. -/
def isAscii (text : List Char) : Bool := text.all fun c => c.toNat < 0x80

/-- What stands for a character beyond ASCII, if it may be in a name. -/
def foldCode? (code : Nat) : Option (List Nat) :=
  if within omittedRanges code then some []
  else match shifted? foldedRuns code with
    | some folded => some [folded]
    | none => match partsOf? foldedRows code with
      | some parts => some parts
      | none => if within allowedRanges code then some [code] else none

/-- What stands for a character, if it may be in a name. -/
def foldChar? (c : Char) : Option (List Char) :=
  if c.toNat < 0x80 then some [c.toLower] else (foldCode? c.toNat).map (·.map Char.ofNat)

/-- ASCII characters that no domain name may hold. -/
def isForbidden (c : Char) : Bool :=
  c.toNat ≤ 0x20 || c.toNat == 0x7F
    || c ∈ ['%', '#', '/', ':', '<', '>', '?', '@', '[', '\\', ']', '^', '|']

/-- Folds a text. -/
def fold? (text : List Char) : Option (List Char) := do
  let parts ← text.mapM foldChar?
  let folded := Composed.compose parts.flatten
  guard (folded.all fun c => !isForbidden c)
  return folded

/-! ### Joiners -/

/-- A joiner that keeps its neighbours apart. -/
def isSeparator (c : Char) : Bool := c.toNat == 0x200C

/-- A joiner that ties its neighbours together. -/
def isTie (c : Char) : Bool := c.toNat == 0x200D

/-- Says whether a character is a sign that takes the vowel from a consonant. -/
def isVirama (c : Char) : Bool := Composed.markClass c == 9

/-- Says whether the first letter of a text joins on the given side. -/
def joinsFrom (side : List (Nat × Nat)) : List Char → Bool
  | [] => false
  | c :: rest =>
    if within dualJoining c.toNat || within side c.toNat then true
    else within transparentJoining c.toNat && joinsFrom side rest

/-- Says whether a joiner makes a difference between two texts, the first in reverse order: after a
sign that takes the vowel, or between letters that would join without it. -/
def joinerFits (before : List Char) (c : Char) (rest : List Char) : Bool :=
  before.head?.any isVirama
    || (isSeparator c && joinsFrom leftJoining before && joinsFrom rightJoining rest)

/-- Says whether every joiner of a text makes a difference. -/
def joinersFit (before : List Char) : List Char → Bool
  | [] => true
  | c :: rest =>
    (!(isSeparator c || isTie c) || joinerFits before c rest) && joinersFit (c :: before) rest

/-! ### Labels -/

/-- The greatest number of characters of a label beyond ASCII. -/
def maxPoints : Nat := 1000

/-- The greatest number of characters of a label after its mark. -/
def maxCoded : Nat := 2000

/-- The mark of a label that is written in ASCII. -/
def mark : List Char := ['x', 'n', '-', '-']

/-- Says whether a folded text can be a label. -/
def isSound (points : List Char) : Bool :=
  isAscii points
    || ((points.head?.all fun c => !within markRanges c.toNat) && joinersFit [] points
      && points.length ≤ maxPoints)

/-- Reads what follows the mark of a label: the label in all of Unicode, which is in folded form. -/
def decode? (coded : List Char) : Option (List Char) := do
  guard (isAscii coded && coded ≠ [] && coded.getLast? ≠ some '-' && coded.length ≤ maxCoded)
  let points ← Punycode.decode? coded
  guard (fold? points = some points && !points.contains '.')
  return points

/-- Reads a folded label. -/
def read? (label : List Char) : Option Label := do
  let points ← match dropStart? mark label with
    | some coded => decode? coded
    | none => some label
  guard (isSound points)
  return { points, text := if isAscii points then points else mark ++ Punycode.encode points }

end Label

end Switchboard
