import Switchboard.Text.Percent
/-!
Form coding: lists of name and value pairs as one text.

Pairs are joined by `&`, a name and its value by `=`. Letters, digits and `*-._` stand for
themselves, a space is written `+`, every other byte with a percent sign. Reading skips empty
pieces, takes a piece without `=` as a name with an empty value, and is lenient about UTF-8.
-/

namespace Switchboard.Text.Form

/-- The bytes that stand for themselves. -/
def isPlain (byte : Nat) : Bool :=
  (48 ≤ byte && byte ≤ 57) || (65 ≤ byte && byte ≤ 90) || (97 ≤ byte && byte ≤ 122)
    || byte == 0x2A || byte == 0x2D || byte == 0x2E || byte == 0x5F

/-- Writes one byte. -/
def writeByte (byte : UInt8) : List Char :=
  if byte == 0x20 then ['+']
  else if isPlain byte.toNat then [Char.ofNat byte.toNat]
  else Percent.writeByte byte

/-- Writes a name or a value. -/
def write (text : String) : List Char := (Utf8.encode text).flatMap writeByte

/-- Reads a name or a value. -/
def read (text : List Char) : String :=
  let spaced := text.map fun c => if c == '+' then ' ' else c
  Utf8.decodeLossy (Percent.decodeBytes (Utf8.encodeChars spaced))

/-- Writes a pair. -/
def writePair (pair : String × String) : List Char := write pair.1 ++ '=' :: write pair.2

/-- Reads a piece between two separators. -/
def readPair (piece : List Char) : String × String :=
  match cutAt '=' piece with
  | some (name, value) => (read name, read value)
  | none => (read piece, "")

/-- Reads pairs. -/
def readPairs (text : List Char) : List (String × String) :=
  ((splitOn '&' text).filter fun piece => !piece.isEmpty).map readPair

end Switchboard.Text.Form
