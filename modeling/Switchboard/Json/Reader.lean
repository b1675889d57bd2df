import Switchboard.Json.Basic
import Switchboard.Number.Integer
import Switchboard.Text.Utf8
/-!
Reading documents from bytes.

The reader goes from left to right and stops at the first fault. A fault has a cause and a place: a
line, and a column that counts bytes. The place is the byte that was read last, or the byte that was
looked at and not accepted, or the end of the text.

Lists and objects may be nested up to a depth of 127. A number is its first digits that fit 64 bits,
scaled by a power of ten.

* `Json.read` reads a document with nothing but blanks around it.
-/

namespace Switchboard.Json

/-- Why a text is not a document. -/
inductive Cause where
  | endInList
  | endInObject
  | endInText
  | endInValue
  | expectedColon
  | expectedListEnd
  | expectedObjectEnd
  | expectedWord
  | expectedValue
  | invalidEscape
  | invalidNumber
  | numberTooLarge
  | invalidCodePoint
  | controlCharacter
  | fieldName
  | loneSurrogate
  | trailingComma
  | trailingCharacters
  | endOfEscape
  | tooDeep
  deriving DecidableEq, Repr

/-- The wording of a cause. -/
def Cause.message : Cause → String
  | .endInList => "EOF while parsing a list"
  | .endInObject => "EOF while parsing an object"
  | .endInText => "EOF while parsing a string"
  | .endInValue => "EOF while parsing a value"
  | .expectedColon => "expected \x60:\x60"
  | .expectedListEnd => "expected \x60,\x60 or \x60]\x60"
  | .expectedObjectEnd => "expected \x60,\x60 or \x60\x7d\x60"
  | .expectedWord => "expected ident"
  | .expectedValue => "expected value"
  | .invalidEscape => "invalid escape"
  | .invalidNumber => "invalid number"
  | .numberTooLarge => "number out of range"
  | .invalidCodePoint => "invalid unicode code point"
  | .controlCharacter => "control character (\\u0000-\\u001F) found while parsing a string"
  | .fieldName => "key must be a string"
  | .loneSurrogate => "lone leading surrogate in hex escape"
  | .trailingComma => "trailing comma"
  | .trailingCharacters => "trailing characters"
  | .endOfEscape => "unexpected end of hex escape"
  | .tooDeep => "recursion limit exceeded"

/-- A cause and where it was met. -/
structure Fault where
  cause : Cause
  line : Nat
  column : Nat
  deriving DecidableEq, Repr

/-- The wording of a fault. -/
def Fault.message (fault : Fault) : String :=
  fault.cause.message ++ " at line " ++ Text.decimal fault.line
    ++ " column " ++ Text.decimal fault.column

/-! ### Places -/

/-- The bytes not yet read and the number of those before them. -/
structure Cursor where
  rest : Text.Bytes
  index : Nat

/-- A cause at a number of bytes from the start. -/
structure Failure where
  cause : Cause
  index : Nat

/-- The result of reading a part. -/
abbrev Read (α : Type) := Except Failure (α × Cursor)

namespace Cursor

/-- The cursor after one more byte. -/
def next (cursor : Cursor) : Cursor := ⟨cursor.rest.drop 1, cursor.index + 1⟩

/-- Fails at the byte read last. -/
def fail (cursor : Cursor) (cause : Cause) : Except Failure α := .error ⟨cause, cursor.index⟩

/-- Fails at the byte looked at. -/
def refuse (cursor : Cursor) (cause : Cause) : Except Failure α :=
  .error ⟨cause, if cursor.rest.isEmpty then cursor.index else cursor.index + 1⟩

/-- The cursor after the bytes that satisfy `accept`. -/
def skipWhile (accept : UInt8 → Bool) (cursor : Cursor) : Cursor :=
  let taken := cursor.rest.takeWhile accept
  ⟨cursor.rest.dropWhile accept, cursor.index + taken.length⟩

/-- Skips blanks. -/
def skipBlanks : Cursor → Cursor :=
  skipWhile fun byte => byte == 0x20 || byte == 0x0A || byte == 0x09 || byte == 0x0D

end Cursor

/-- Line and column of a number of bytes from the start of a text. -/
def placeOf (bytes : Text.Bytes) (index : Nat) : Nat × Nat :=
  let before := bytes.take index
  let lines := before.count 0x0A
  let column := (before.reverse.takeWhile (· != 0x0A)).length
  (lines + 1, column)

/-! ### Words and numbers -/

/-- Reads the given bytes. -/
def readWord (cursor : Cursor) : Text.Bytes → Except Failure Cursor
  | [] => .ok cursor
  | expected :: more => match cursor.rest with
    | [] => cursor.fail .endInValue
    | byte :: _ =>
      if byte == expected then readWord cursor.next more
      else cursor.next.fail .expectedWord

/-- The value of a digit. -/
def digit? (byte : UInt8) : Option Nat :=
  if 0x30 ≤ byte.toNat ∧ byte.toNat ≤ 0x39 then some (byte.toNat - 0x30) else none

/-- Reads digits onto a value as long as it fits 64 bits. Says whether a digit is left that does
not fit, and how many were read. -/
def readDigits (value count : Nat) (index : Nat) : Text.Bytes → Nat × Nat × Bool × Cursor
  | [] => (value, count, false, ⟨[], index⟩)
  | byte :: rest => match digit? byte with
    | none => (value, count, false, ⟨byte :: rest, index⟩)
    | some digit =>
      let next := value * 10 + digit
      if next ≤ Number.maxWord then readDigits next (count + 1) (index + 1) rest
      else (value, count, true, ⟨byte :: rest, index⟩)

/-- Skips digits. -/
def skipDigits (cursor : Cursor) : Cursor := cursor.skipWhile fun byte => (digit? byte).isSome

/-- Scales a number by a power of ten that may be beyond the range of doubles. The last argument
bounds the number of steps of 308 places. -/
def scale (x : Number.Double) (exponent : Int) : Nat → Option Number.Double
  | 0 => some Number.Double.zero
  | fuel + 1 =>
    if exponent.natAbs ≤ 308 then
      let power := Number.Double.powerOfTen exponent.natAbs
      if 0 ≤ exponent then
        let product := x.mul power
        if product.isInfinite then none else some product
      else some (x.div power)
    else if x.isZero then some x
    else if 0 ≤ exponent then none
    else scale (x.div (Number.Double.powerOfTen 308)) (exponent + 308) fuel

/-- The number of digits and a power of ten. -/
def finishReal (negative : Bool) (digits : Nat) (exponent : Int) (cursor : Cursor) :
    Read Numeral :=
  match scale (Number.Double.ofNat digits) exponent 4 with
  | none => cursor.fail .numberTooLarge
  | some x => .ok (.real (if negative then x.negate else x), cursor)

/-- The greatest exponent that is told apart from infinity. -/
def maxExponent : Nat := 2147483647

/-- Reads the digits of an exponent; none if they exceed `maxExponent`. -/
def readExponentDigits (value index : Nat) : Text.Bytes → Option Nat × Cursor
  | [] => (some value, ⟨[], index⟩)
  | byte :: rest => match digit? byte with
    | none => (some value, ⟨byte :: rest, index⟩)
    | some digit =>
      let next := value * 10 + digit
      if next ≤ maxExponent then readExponentDigits next (index + 1) rest
      else (none, ⟨rest, index + 1⟩)

/-- Reads an exponent after its letter. -/
def readExponent (negative : Bool) (digits : Nat) (start : Int) (cursor : Cursor) :
    Read Numeral :=
  let (down, cursor) := match cursor.rest with
    | 0x2B :: _ => (false, cursor.next)
    | 0x2D :: _ => (true, cursor.next)
    | _ => (false, cursor)
  match cursor.rest with
  | [] => cursor.fail .endInValue
  | byte :: rest => match digit? byte with
    | none => cursor.next.fail .invalidNumber
    | some first => match readExponentDigits first (cursor.index + 1) rest with
      | (some exponent, cursor) =>
        finishReal negative digits (if down then start - exponent else start + exponent) cursor
      | (none, cursor) =>
        if digits ≠ 0 ∧ !down then cursor.fail .numberTooLarge
        else .ok (.real (Number.Double.ofMagnitude negative 0), skipDigits cursor)

/-- Reads an exponent, if there is one, and ends the number. -/
def readScale (negative : Bool) (digits : Nat) (exponent : Int) (cursor : Cursor) :
    Read Numeral :=
  match cursor.rest with
  | 0x65 :: _ | 0x45 :: _ => readExponent negative digits exponent cursor.next
  | _ => finishReal negative digits exponent cursor

/-- Reads the digits after a point. -/
def readFraction (negative : Bool) (digits : Nat) (exponent : Int) (cursor : Cursor) :
    Read Numeral :=
  let (value, count, full, cursor) := readDigits digits 0 cursor.index cursor.rest
  if full then readScale negative value (exponent - count) (skipDigits cursor)
  else if count = 0 then
    cursor.refuse (if cursor.rest.isEmpty then .endInValue else .invalidNumber)
  else readScale negative value (exponent - count) cursor

/-- A whole number of 64 bits, or a double if it is out of range or negative zero. -/
def wholeNumber (negative : Bool) (digits : Nat) : Numeral :=
  if !negative then .natural digits
  else if digits = 0 ∨ 9223372036854775808 < digits then
    .real (Number.Double.ofNat digits).negate
  else .negative (-digits)

/-- Ends a number whose whole part was read. -/
def readRest (negative : Bool) (digits : Nat) (cursor : Cursor) : Read Numeral :=
  match cursor.rest with
  | 0x2E :: _ => readFraction negative digits 0 cursor.next
  | 0x65 :: _ | 0x45 :: _ => readExponent negative digits 0 cursor.next
  | _ => .ok (wholeNumber negative digits, cursor)

/-- Reads a number after its sign. -/
def readNumber (negative : Bool) (cursor : Cursor) : Read Numeral :=
  match cursor.rest with
  | [] => cursor.fail .endInValue
  | byte :: rest => match digit? byte with
    | none => cursor.next.fail .invalidNumber
    | some 0 => match rest with
      | following :: _ =>
        if (digit? following).isSome then cursor.next.refuse .invalidNumber
        else readRest negative 0 cursor.next
      | [] => readRest negative 0 cursor.next
    | some first =>
      let (value, _, full, cursor) := readDigits first 1 (cursor.index + 1) rest
      if full then
        let after := skipDigits cursor
        let exponent : Int := after.index - cursor.index
        match after.rest with
        | 0x2E :: _ => readFraction negative value exponent after.next
        | _ => readScale negative value exponent after
      else readRest negative value cursor

/-! ### Strings -/

/-- The value of a hexadecimal digit. -/
def hexByte? (byte : UInt8) : Option Nat :=
  if byte.toNat < 0x80 then Text.hexValue? (Char.ofNat byte.toNat) else none

/-- Reads four hexadecimal digits. -/
def readHex (cursor : Cursor) : Read Nat :=
  match cursor.rest with
  | a :: b :: c :: d :: rest =>
    let after : Cursor := ⟨rest, cursor.index + 4⟩
    match hexByte? a, hexByte? b, hexByte? c, hexByte? d with
    | some a, some b, some c, some d => .ok (a * 4096 + b * 256 + c * 16 + d, after)
    | _, _, _, _ => after.fail .invalidEscape
  | rest => .error ⟨.endInText, cursor.index + rest.length⟩

/-- Reads the second half of a surrogate pair. -/
def readLowSurrogate (high : Nat) (cursor : Cursor) :
    Except Failure (Text.Bytes × Cursor) := do
  match cursor.rest with
  | [] => cursor.fail .endInText
  | 0x5C :: _ => match cursor.next.rest with
    | [] => cursor.next.fail .endInText
    | 0x75 :: _ =>
      let (low, cursor) ← readHex cursor.next.next
      if low < 0xDC00 ∨ 0xDFFF < low then cursor.fail .loneSurrogate
      else
        let code := (high - 0xD800) * 1024 + (low - 0xDC00) + 0x10000
        return (Text.Utf8.encodeChar (Char.ofNat code), cursor)
    | _ => cursor.next.next.fail .endOfEscape
  | _ => cursor.next.fail .endOfEscape

/-- Reads what follows a backslash, as bytes of the string. -/
def readEscape (cursor : Cursor) : Except Failure (Text.Bytes × Cursor) := do
  match cursor.rest with
  | [] => cursor.fail .endInText
  | byte :: _ =>
    let after := cursor.next
    if byte == 0x22 || byte == 0x5C || byte == 0x2F then return ([byte], after)
    else if byte == 0x62 then return ([8], after)
    else if byte == 0x66 then return ([12], after)
    else if byte == 0x6E then return ([10], after)
    else if byte == 0x72 then return ([13], after)
    else if byte == 0x74 then return ([9], after)
    else if byte == 0x75 then
      let (code, after) ← readHex after
      if 0xDC00 ≤ code ∧ code ≤ 0xDFFF then after.fail .loneSurrogate
      else if 0xD800 ≤ code ∧ code ≤ 0xDBFF then readLowSurrogate code after
      else return (Text.Utf8.encodeChar (Char.ofNat code), after)
    else after.fail .invalidEscape

/-- Reads the bytes of a string up to its closing quote; `read` holds those before, last first. -/
def readTextBytes (read : Text.Bytes) (cursor : Cursor) : Nat → Read Text.Bytes
  | 0 => cursor.fail .endInText
  | fuel + 1 => match cursor.rest with
    | [] => cursor.fail .endInText
    | byte :: _ =>
      if byte == 0x22 then .ok (read.reverse, cursor.next)
      else if byte == 0x5C then
        match readEscape cursor.next with
        | .ok (bytes, after) => readTextBytes (bytes.reverse ++ read) after fuel
        | .error failure => .error failure
      else if byte.toNat < 0x20 then cursor.next.fail .controlCharacter
      else readTextBytes (byte :: read) cursor.next fuel

/-- Reads a string after its opening quote. Bytes that are no text are refused as many bytes before
the place after the closing quote as the string has from its first bad byte on. -/
def readText (cursor : Cursor) : Except Failure (String × Cursor) := do
  let (bytes, after) ← readTextBytes [] cursor (cursor.rest.length + 1)
  match Text.Utf8.decode? bytes with
  | .ok string => return (string, after)
  | .error fault => .error ⟨.invalidCodePoint, after.index - (bytes.length - fault.index)⟩

/-! ### Values -/

/-- The depth at which reading stops. -/
def maxDepth : Nat := 128

/-- Looks past a comma for the next item of a list. -/
def nextItem (cursor : Cursor) : Read Bool :=
  match cursor.rest with
  | [] => cursor.refuse .endInList
  | 0x5D :: _ => .ok (false, cursor.next)
  | 0x2C :: _ =>
    let after := cursor.next.skipBlanks
    match after.rest with
    | [] => after.refuse .endInValue
    | 0x5D :: _ => after.refuse .trailingComma
    | _ => .ok (true, after)
  | _ => cursor.refuse .expectedListEnd

/-- Looks past a comma for the quote of the next field name. -/
def nextField (cursor : Cursor) : Read Bool :=
  match cursor.rest with
  | [] => cursor.refuse .endInObject
  | 0x7D :: _ => .ok (false, cursor.next)
  | 0x2C :: _ =>
    let after := cursor.next.skipBlanks
    match after.rest with
    | [] => after.refuse .endInValue
    | 0x22 :: _ => .ok (true, after.next)
    | 0x7D :: _ => after.refuse .trailingComma
    | _ => after.refuse .fieldName
  | _ => cursor.refuse .expectedObjectEnd

/-- Reads a colon between blanks. -/
def readColon (cursor : Cursor) : Except Failure Cursor :=
  let cursor := cursor.skipBlanks
  match cursor.rest with
  | [] => cursor.refuse .endInObject
  | 0x3A :: _ => .ok cursor.next
  | _ => cursor.refuse .expectedColon

mutual

/-- Reads a value after blanks; `depth` levels may still be opened. -/
def readValue (depth : Nat) (cursor : Cursor) : Nat → Read Json
  | 0 => cursor.refuse .endInValue
  | fuel + 1 =>
    let cursor := cursor.skipBlanks
    match cursor.rest with
    | [] => cursor.refuse .endInValue
    | 0x6E :: _ => (readWord cursor.next [0x75, 0x6C, 0x6C]).map fun after => (.null, after)
    | 0x74 :: _ =>
      (readWord cursor.next [0x72, 0x75, 0x65]).map fun after => (.bool true, after)
    | 0x66 :: _ =>
      (readWord cursor.next [0x61, 0x6C, 0x73, 0x65]).map fun after => (.bool false, after)
    | 0x2D :: _ => (readNumber true cursor.next).map fun (n, after) => (.number n, after)
    | 0x22 :: _ => (readText cursor.next).map fun (s, after) => (.text s, after)
    | 0x5B :: _ =>
      if depth ≤ 1 then cursor.refuse .tooDeep
      else
        let after := cursor.next.skipBlanks
        match after.rest with
        | [] => after.refuse .endInList
        | 0x5D :: _ => .ok (.list [], after.next)
        | _ => readItems (depth - 1) [] after fuel
    | 0x7B :: _ =>
      if depth ≤ 1 then cursor.refuse .tooDeep
      else
        let after := cursor.next.skipBlanks
        match after.rest with
        | [] => after.refuse .endInObject
        | 0x7D :: _ => .ok (.object [], after.next)
        | 0x22 :: _ => readFields (depth - 1) [] after.next fuel
        | _ => after.refuse .fieldName
    | byte :: _ =>
      if (digit? byte).isSome then
        (readNumber false cursor).map fun (n, after) => (.number n, after)
      else cursor.refuse .expectedValue

/-- Reads the items of a list from the next one on; `items` holds those before, last first. -/
def readItems (depth : Nat) (items : List Json) (cursor : Cursor) : Nat → Read Json
  | 0 => cursor.refuse .endInList
  | fuel + 1 => match readValue depth cursor fuel with
    | .error failure => .error failure
    | .ok (item, after) => match nextItem after.skipBlanks with
      | .error failure => .error failure
      | .ok (true, after) => readItems depth (item :: items) after fuel
      | .ok (false, after) => .ok (.list (item :: items).reverse, after)

/-- Reads the fields of an object from the name of the next one on. -/
def readFields (depth : Nat) (fields : List (String × Json)) (cursor : Cursor) : Nat → Read Json
  | 0 => cursor.refuse .endInObject
  | fuel + 1 => match readText cursor with
    | .error failure => .error failure
    | .ok (name, after) => match readColon after with
      | .error failure => .error failure
      | .ok after => match readValue depth after fuel with
        | .error failure => .error failure
        | .ok (value, after) =>
          let fields := insertField name value fields
          match nextField after.skipBlanks with
          | .error failure => .error failure
          | .ok (true, after) => readFields depth fields after fuel
          | .ok (false, after) => .ok (.object fields, after)

end

/-- Reads a document with nothing but blanks around it. -/
def readAll (bytes : Text.Bytes) : Except Failure Json :=
  match readValue maxDepth ⟨bytes, 0⟩ (2 * bytes.length + 2) with
  | .error failure => .error failure
  | .ok (value, after) =>
    let after := after.skipBlanks
    if after.rest.isEmpty then .ok value else after.refuse .trailingCharacters

/-- Reads a document from bytes. -/
def read (bytes : Text.Bytes) : Except Fault Json :=
  (readAll bytes).mapError fun failure =>
    let (line, column) := placeOf bytes failure.index
    ⟨failure.cause, line, column⟩

end Switchboard.Json
