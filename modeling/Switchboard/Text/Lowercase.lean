import Switchboard.Text.Table.Case
import Switchboard.Text.Basic
/-!
Small letters for all of Unicode.

Path constants are compared in small letters. Every capital has one small letter, with two
exceptions: the dotted capital I becomes an i with a dot above it, and the capital sigma has a
second small form at the end of a word, that is after a letter with case and not before one, marks
and apostrophes not counted.
-/

namespace Switchboard.Text.Lowercase

open Table

/-- The code point that a code point beyond ASCII has as its small letter. -/
def smallCode (code : Nat) : Nat := (shifted? smallLetters code).getD code

/-- The small letter of a character, by the rule that holds for single characters. -/
def smallChar (c : Char) : List Char :=
  if c.toNat < 0x80 then [c.toLower]
  else if c.toNat = 0x130 then ['i', Char.ofNat 0x307]
  else [Char.ofNat (smallCode c.toNat)]

/-- Says whether the first character of a list that counts has case. -/
def startsCased : List Char → Bool
  | [] => false
  | c :: rest =>
    if within ignoredRanges c.toNat then startsCased rest else within casedRanges c.toNat

/-- Maps the characters after `before`, which is in reverse order. -/
def smallFrom (before : List Char) : List Char → List Char
  | [] => []
  | c :: rest =>
    let small :=
      if c.toNat = 0x3A3 then
        if startsCased before && !startsCased rest then [Char.ofNat 0x3C2] else [Char.ofNat 0x3C3]
      else smallChar c
    small ++ smallFrom (c :: before) rest

/-- A string in small letters. -/
def ofString (text : String) : String := String.ofList (smallFrom [] text.toList)

end Switchboard.Text.Lowercase
