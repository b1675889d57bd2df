import Switchboard.Text.Percent
import Switchboard.Uri.Domain
/-!
Hosts.

In the schemes of the web a host is a domain name or an address. A name is percent-decoded and put
into ASCII; a name whose last label is a number is an address of four bytes, and brackets enclose
one of eight words. Other schemes take a host as it is, except for addresses in
brackets and a few characters that no host may hold.

* `Host.parseWeb` reads a host of the schemes of the web.
* `Host.parseOther` reads a host of any other scheme.
-/

namespace Switchboard

/-- Why a text is not a URI, or a URI does not take a part. -/
inductive UriFault where
  | emptyHost
  | domainName
  | port
  | fourByteAddress
  | eightWordAddress
  | hostCharacter
  | relativeWithoutBase
  | relativeToLiteral
  | hostOnLiteral
  deriving DecidableEq, Repr

/-- The wording of a fault. -/
def UriFault.message : UriFault → String
  | .emptyHost => "empty host"
  | .domainName => "invalid international domain name"
  | .port => "invalid port number"
  | .fourByteAddress => "invalid IPv4 address"
  | .eightWordAddress => "invalid IPv6 address"
  | .hostCharacter => "invalid domain character"
  | .relativeWithoutBase => "relative URL without a base"
  | .relativeToLiteral => "relative URL with a cannot-be-a-base base"
  | .hostOnLiteral => "a cannot-be-a-base URL doesn’t have a host to set"

namespace Host

open Text

/-! ### Addresses of four bytes -/

/-- The value of digits of a base, if all are. -/
def digitsValue? (base : Nat) (text : List Char) : Option Nat :=
  text.foldlM (fun value c => do
    let d ← hexValue? c
    if d < base then some (value * base + d) else none) 0

/-- A number as it stands in an address: decimal, or octal after a zero, or hexadecimal. -/
def addressNumber? (text : List Char) : Option Nat :=
  match text with
  | [] => none
  | '0' :: 'x' :: digits | '0' :: 'X' :: digits => digitsValue? 16 digits
  | '0' :: c :: digits => digitsValue? 8 (c :: digits)
  | digits => digitsValue? 10 digits

/-- The labels of a name, without an empty one at its end. -/
def labels (name : List Char) : List (List Char) :=
  let all := splitOn '.' name
  if all.getLast? = some [] then all.dropLast else all

/-- Says whether the last label of a name is a number. -/
def endsInNumber (name : List Char) : Bool :=
  let all := splitOn '.' name
  let last := match all.reverse with
    | [] :: label :: _ => label
    | [[]] => []
    | label :: _ => label
    | [] => []
  (!last.isEmpty && last.all fun c => (digitsValue? 10 [c]).isSome) || (addressNumber? last).isSome

/-- The value of an address of which the last number fills the bytes that are left. -/
def addressValue? (numbers : List Nat) : Option Nat :=
  match numbers.reverse with
  | [] => none
  | last :: before =>
    let front := before.reverse
    if front.any (255 < ·) then none
    else if Nat.pow 256 (4 - front.length) ≤ last then none
    else
      let value := front.foldl (fun value n => value * 256 + n) 0
      some (value * Nat.pow 256 (4 - front.length) + last)

/-- The text of an address of four bytes. -/
def addressText (value : Nat) : String :=
  join "." ([value / 16777216, value / 65536 % 256, value / 256 % 256, value % 256].map decimal)

/-- Reads an address of four bytes. -/
def fourBytes (name : List Char) : Except UriFault String :=
  let parts := labels name
  let value := if 4 < parts.length then none else (parts.mapM addressNumber?).bind addressValue?
  match value with
  | some value => .ok (addressText value)
  | none => .error .fourByteAddress

/-! ### Addresses of eight words -/

/-- Splits off at most four hexadecimal digits. -/
def spanWord (text : List Char) : List Char × List Char :=
  let digits := (text.take 4).takeWhile fun c => (hexValue? c).isSome
  (digits, text.drop digits.length)

/-- Reads a byte in decimal digits without a leading zero. -/
def byte? (text : List Char) : Option Nat :=
  let plain := text = ['0'] ∨ text.head? ≠ some '0'
  match digitsValue? 10 text with
  | some value => if !text.isEmpty ∧ text.length ≤ 3 ∧ plain ∧ value < 256 then some value else none
  | none => none

/-- The two words of an address of four bytes at the end. -/
def lastWords? (text : List Char) : Option (List Nat) :=
  match (splitOn '.' text).map byte? with
  | [some a, some b, some c, some d] => some [a * 256 + b, c * 256 + d]
  | _ => none

/-- The number of places that words take, with the zeros between two colons as one place. -/
def places (words : List Nat) (gap : Option Nat) : Nat := words.length + if gap.isSome then 1 else 0

/-- Reads words separated by colons. `words` holds those before, and `gap` the number of words
before the two colons that stand for zeros, if they were met. -/
def readWords : Nat → List Nat → Option Nat → List Char → Option (List Nat × Option Nat)
  | 0, _, _, _ => none
  | fuel + 1, words, gap, text => match text with
    | [] => some (words, gap)
    | ':' :: rest =>
      if 8 ≤ places words gap ∨ gap.isSome then none
      else readWords fuel words (some words.length) rest
    | text =>
      if 8 ≤ places words gap then none
      else
        let (digits, rest) := spanWord text
        let value := (digitsValue? 16 digits).getD 0
        match rest with
        | [] => some (words ++ [value], gap)
        | '.' :: _ =>
          if digits.isEmpty ∨ 6 < places words gap then none
          else (lastWords? text).map fun last => (words ++ last, gap)
        | ':' :: [] => none
        | ':' :: rest => readWords fuel (words ++ [value]) gap rest
        | _ => none

/-- The eight words of an address. -/
def eightWords? (text : List Char) : Option (List Nat) := do
  let (words, gap) ← match text with
    | ':' :: ':' :: rest => readWords (rest.length + 1) [] (some 0) rest
    | ':' :: _ => none
    | [] | [_] => none
    | text => readWords (text.length + 1) [] none text
  match gap with
  | some before =>
    guard (words.length < 8)
    return words.take before ++ List.replicate (8 - words.length) 0 ++ words.drop before
  | none =>
    guard (words.length = 8)
    return words

/-- Start and length of the first longest run of zeros, of which `start` and `length` is the best
one so far and `run` the length of the one that ends at `index`. -/
def longestZeros (start length run index : Nat) : List Nat → Nat × Nat
  | [] => (start, length)
  | word :: rest =>
    let run := if word = 0 then run + 1 else 0
    if length < run then longestZeros (index + 1 - run) run run (index + 1) rest
    else longestZeros start length run (index + 1) rest

/-- Words in hexadecimal with colons between them. -/
def wordsText (words : List Nat) : String :=
  join ":" (words.map fun word => String.ofList (Nat.toDigits 16 word))

/-- The text of an address of eight words, with two colons for the longest run of zeros. -/
def eightWordsText (words : List Nat) : String :=
  let (start, length) := longestZeros 0 0 0 0 words
  if length < 2 then "[" ++ wordsText words ++ "]"
  else "[" ++ wordsText (words.take start) ++ "::" ++ wordsText (words.drop (start + length)) ++ "]"

/-- Reads an address between brackets, given without its opening bracket. -/
def bracketed (text : List Char) : Except UriFault String :=
  if text.getLast? = some ']' then
    match eightWords? text.dropLast with
    | some words => .ok (eightWordsText words)
    | none => .error .eightWordAddress
  else .error .eightWordAddress

/-! ### Names -/

/-- Reads a host of the schemes of the web. -/
def parseWeb (text : List Char) : Except UriFault String :=
  match text with
  | '[' :: rest => bracketed rest
  | _ => match Domain.text? (Percent.decodeBytes (Utf8.encodeChars text)) with
    | none => .error .domainName
    | some [] => .error .emptyHost
    | some name => if endsInNumber name then fourBytes name else .ok (String.ofList name)

/-- Characters that no host of another scheme may hold. -/
def isReserved (c : Char) : Bool :=
  c.toNat == 0
    || c ∈ ['\t', '\n', '\r', ' ', '#', '/', ':', '<', '>', '?', '@', '[', '\\', ']', '^', '|']

/-- Reads a host of a scheme that is not of the web. -/
def parseOther (text : List Char) : Except UriFault String :=
  match text with
  | '[' :: rest => bracketed rest
  | _ =>
    if text.any isReserved then .error .hostCharacter
    else .ok (String.ofList (Percent.write Percent.controls text))

end Host

end Switchboard
