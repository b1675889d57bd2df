import Switchboard.Text.Table.Direction
import Switchboard.Text.Utf8
import Switchboard.Uri.Label
/-!
Domain names.

A name is a list of labels with points between them. If one of them holds a character that is written
from right to left, every label has to show in one direction: it begins with a letter of that
direction, ends with a letter or a digit, and has no letter of the other one.

* `Domain.text?` is a name in ASCII.
-/

namespace Switchboard.Domain

open Text Text.Table

/-! ### Direction -/

/-- The class of direction of a character. -/
def directionOf (c : Char) : Direction := (valueAt? directionRuns c.toNat).getD .left

/-- Says whether characters of a class bring in the direction from right to left. -/
def isTurning : Direction → Bool
  | .right | .arabic => true
  | _ => false

/-- Says whether a label that is written from left to right shows in one direction. -/
def showsLeft (last : Direction) (inner : List Direction) : Bool :=
  (last == .left || last == .european) && inner.all fun d => !isTurning d

/-- Says whether a label that is written from right to left shows in one direction. -/
def showsRight (last : Direction) (inner : List Direction) : Bool :=
  let all := last :: inner
  (last == .right || last == .european || last == .arabic) && !all.contains .left
    && !(all.contains .european && all.contains .arabic)

/-- Says whether a label shows in one direction. Marks at its end go with what they follow. -/
def shows (label : List Char) : Bool :=
  match label.map directionOf with
  | [] => true
  | first :: rest =>
    (first == .left || first == .right)
      && match rest.reverse.dropWhile (· == .mark) with
        | [] => true
        | last :: inner => if first == .left then showsLeft last inner else showsRight last inner

/-- Says whether the labels of a name can stand together. -/
def agree (labels : List (List Char)) : Bool :=
  !(labels.any fun label => label.any fun c => 0x590 ≤ c.toNat && isTurning (directionOf c))
    || labels.all shows

/-! ### Names -/

/-- A domain name in ASCII. -/
def text? (bytes : Bytes) : Option (List Char) := do
  let name ← (Utf8.decode? bytes).toOption
  let folded ← Label.fold? name.toList
  let labels ← (splitOn '.' folded).mapM Label.read?
  guard (agree (labels.map Label.points))
  return joinWith '.' (labels.map Label.text)

end Switchboard.Domain
