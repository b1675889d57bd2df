import Switchboard.Text.Utf8
/-!
Percent coding of bytes in text.

A byte is written `%` and two hexadecimal digits. Which characters are written that way depends on
where in a URI they stand; what is not ASCII always is. Reading accepts digits of either case and
leaves a percent sign alone that two digits do not follow.

Main statement: `decodeBytes_writeByte`, a written byte is read back whatever follows it.
-/

namespace Switchboard.Text.Percent

/-- The capital hexadecimal digit of a number below sixteen. -/
def digit (n : Nat) : Char := if n < 10 then Char.ofNat (48 + n) else Char.ofNat (55 + n)

/-- A byte as a percent sign and two digits. -/
def writeByte (byte : UInt8) : List Char :=
  ['%', digit (byte.toNat / 16), digit (byte.toNat % 16)]

/-- The characters of a class of text that are to be written as bytes. -/
abbrev CharSet := Char → Bool

/-- Writes one character, as bytes if it is in the set or not ASCII. -/
def writeChar (set : CharSet) (c : Char) : List Char :=
  if c.toNat ≥ 0x80 || set c then (Utf8.encodeChar c).flatMap writeByte else [c]

/-- Writes a text with the characters of the set as bytes. -/
def write (set : CharSet) (text : List Char) : List Char := text.flatMap (writeChar set)

/-- The byte for an ASCII character. -/
def asciiByte (c : Char) : UInt8 := UInt8.ofNat c.toNat

/-- The value of a hexadecimal digit given as a byte. -/
def hexByte? (byte : UInt8) : Option Nat :=
  if byte.toNat < 0x80 then hexValue? (Char.ofNat byte.toNat) else none

/-- Replaces each percent sign that two hexadecimal digits follow by the byte they name. -/
def decodeBytes : Bytes → Bytes
  | 0x25 :: high :: low :: rest =>
    match hexByte? high, hexByte? low with
    | some h, some l => UInt8.ofNat (h * 16 + l) :: decodeBytes rest
    | _, _ => 0x25 :: decodeBytes (high :: low :: rest)
  | byte :: rest => byte :: decodeBytes rest
  | [] => []
termination_by bytes => bytes.length

/-- Percent decoding of a string, to bytes. -/
def decode (text : String) : Bytes := decodeBytes (Utf8.encode text)

theorem hexByte?_digit {n : Nat} (small : n < 16) : hexByte? (asciiByte (digit n)) = some n := by
  have all : ∀ m ∈ List.range 16, hexByte? (asciiByte (digit m)) = some m := by decide
  exact all n (List.mem_range.2 small)

/-- **A written byte is read back, whatever follows.** -/
theorem decodeBytes_writeByte (byte : UInt8) (rest : Bytes) :
    decodeBytes ((writeByte byte).map asciiByte ++ rest) = byte :: decodeBytes rest := by
  have bound : byte.toNat < 256 := byte.toNat_lt
  have high : byte.toNat / 16 < 16 := by omega
  have low : byte.toNat % 16 < 16 := by omega
  have percent : asciiByte '%' = 0x25 := by decide
  simp only [writeByte, List.map_cons, List.map_nil, List.cons_append, List.nil_append, percent]
  rw [decodeBytes]
  simp only [hexByte?_digit high, hexByte?_digit low]
  have whole : byte.toNat / 16 * 16 + byte.toNat % 16 = byte.toNat := by omega
  simp [whole]

/-! ### Sets -/

/-- Control characters. -/
def controls : CharSet := fun c => c.toNat < 0x20 || c.toNat == 0x7F

/-- What is escaped in fragments. -/
def fragment : CharSet := fun c => controls c || c ∈ [' ', '"', '<', '>', Char.ofNat 0x60]

/-- What is escaped in paths. -/
def path : CharSet := fun c => fragment c || c ∈ ['#', '?', '\x7b', '\x7d']

/-- What is escaped in user names and passwords. -/
def userinfo : CharSet :=
  fun c => path c || c ∈ ['/', ':', ';', '=', '@', '[', '\\', ']', '^', '|']

/-- What is escaped in queries. -/
def query : CharSet := fun c => controls c || c ∈ [' ', '"', '#', '<', '>']

/-- What is escaped in queries of the schemes of the web. -/
def webQuery : CharSet := fun c => query c || c.toNat == 0x27

end Switchboard.Text.Percent
