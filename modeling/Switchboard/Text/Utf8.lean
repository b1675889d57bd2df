import Switchboard.Text.Basic
/-!
UTF-8, read strictly and leniently.

A sequence is read lead byte first. The lead says how many continuation bytes follow and narrows the
range of the first of them, which is what excludes overlong forms, surrogates and code points above
U+10FFFF.

* `decode?` reads all of a byte string or says where and how it stops being UTF-8.
* `decodeLossy` puts U+FFFD in the place of each part that is not UTF-8.
* `encode` is the inverse of reading.
-/

namespace Switchboard.Text

/-- Bytes of a body, a wire header or a file. -/
abbrev Bytes := List UInt8

namespace Utf8

/-- Where a byte string stops being UTF-8. -/
inductive Fault where
  /-- The `width` bytes from `index` on start no character. -/
  | invalid (width index : Nat)
  /-- The bytes from `index` on are the start of a character that never ends. -/
  | incomplete (index : Nat)
  deriving DecidableEq, Repr

/-- The number of bytes before a fault, all of which are UTF-8. -/
def Fault.index : Fault → Nat
  | .invalid _ index => index
  | .incomplete index => index

/-- The wording of a fault. -/
def Fault.message : Fault → String
  | .invalid width index =>
    "invalid utf-8 sequence of " ++ decimal width ++ " bytes from index " ++ decimal index
  | .incomplete index => "incomplete utf-8 byte sequence from index " ++ decimal index

/-- The bytes of one character. -/
def encodeChar (c : Char) : Bytes :=
  let n := c.toNat
  if n < 0x80 then [UInt8.ofNat n]
  else if n < 0x800 then [UInt8.ofNat (0xC0 + n / 64), UInt8.ofNat (0x80 + n % 64)]
  else if n < 0x10000 then
    [UInt8.ofNat (0xE0 + n / 4096), UInt8.ofNat (0x80 + n / 64 % 64), UInt8.ofNat (0x80 + n % 64)]
  else
    [UInt8.ofNat (0xF0 + n / 262144), UInt8.ofNat (0x80 + n / 4096 % 64),
      UInt8.ofNat (0x80 + n / 64 % 64), UInt8.ofNat (0x80 + n % 64)]

/-- The bytes of a list of characters. -/
def encodeChars (text : List Char) : Bytes := text.flatMap encodeChar

/-- The bytes of a string. -/
def encode (text : String) : Bytes := encodeChars text.toList

/-- What a lead byte announces: the bits it carries, the range of the next byte, and how many
continuation bytes come after that one. -/
structure Lead where
  bits : Nat
  low : Nat
  high : Nat
  more : Nat

/-- The announcement of a lead byte of two or more; `none` for any other byte. -/
def lead? (byte : Nat) : Option Lead :=
  if byte < 0xC2 then none
  else if byte ≤ 0xDF then some ⟨byte - 0xC0, 0x80, 0xBF, 0⟩
  else if byte = 0xE0 then some ⟨0, 0xA0, 0xBF, 1⟩
  else if byte = 0xED then some ⟨byte - 0xE0, 0x80, 0x9F, 1⟩
  else if byte ≤ 0xEF then some ⟨byte - 0xE0, 0x80, 0xBF, 1⟩
  else if byte = 0xF0 then some ⟨0, 0x90, 0xBF, 2⟩
  else if byte ≤ 0xF3 then some ⟨byte - 0xF0, 0x80, 0xBF, 2⟩
  else if byte = 0xF4 then some ⟨4, 0x80, 0x8F, 2⟩
  else none

/-- One step of reading: a character and the number of its bytes, the number of bytes that start no
character, or the end of the text inside a character. -/
inductive Step where
  | char (c : Char) (width : Nat)
  | invalid (width : Nat)
  | incomplete
  deriving DecidableEq, Repr

/-- Reads the last `more` continuation bytes of a character of which `bits` are known. -/
def readTail (bits : Nat) : Nat → Nat → Bytes → Step
  | 0, width, _ => .char (Char.ofNat bits) width
  | _ + 1, _, [] => .incomplete
  | more + 1, width, byte :: rest =>
    let b := byte.toNat
    if 0x80 ≤ b ∧ b ≤ 0xBF then readTail (bits * 64 + (b - 0x80)) more (width + 1) rest
    else .invalid width

/-- Reads one character from `first :: rest`. -/
def step (first : UInt8) (rest : Bytes) : Step :=
  if first.toNat < 0x80 then .char (Char.ofNat first.toNat) 1
  else match lead? first.toNat with
    | none => .invalid 1
    | some lead => match rest with
      | [] => .incomplete
      | byte :: rest =>
        let b := byte.toNat
        if lead.low ≤ b ∧ b ≤ lead.high then
          readTail (lead.bits * 64 + (b - 0x80)) lead.more 2 rest
        else .invalid 1

/-- Strict reading with `skip` bytes still belonging to the character last read; `index` counts
the bytes before the list. -/
def decodeFrom (index : Nat) : Nat → Bytes → Except Fault (List Char)
  | _, [] => .ok []
  | skip + 1, _ :: rest => decodeFrom (index + 1) skip rest
  | 0, first :: rest => match step first rest with
    | .char c width => (decodeFrom (index + 1) (width - 1) rest).map (c :: ·)
    | .invalid width => .error (.invalid width index)
    | .incomplete => .error (.incomplete index)

/-- Reads a byte string as UTF-8. -/
def decode? (bytes : Bytes) : Except Fault String :=
  (decodeFrom 0 0 bytes).map String.ofList

/-- Lenient reading with `skip` bytes still belonging to the part last read. -/
def decodeLossyFrom : Nat → Bytes → List Char
  | _, [] => []
  | skip + 1, _ :: rest => decodeLossyFrom skip rest
  | 0, first :: rest => match step first rest with
    | .char c width => c :: decodeLossyFrom (width - 1) rest
    | .invalid width => Char.ofNat 0xFFFD :: decodeLossyFrom (width - 1) rest
    | .incomplete => [Char.ofNat 0xFFFD]

/-- Reads a byte string as UTF-8, with U+FFFD for what is not. -/
def decodeLossy (bytes : Bytes) : String := String.ofList (decodeLossyFrom 0 bytes)

end Utf8

end Switchboard.Text
