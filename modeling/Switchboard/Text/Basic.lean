/-!
Text as lists of characters: case, blanks and cuts.

Names in this library (headers, parameters, hosts, schemes) are compared without regard to the case
of ASCII letters, and outer blanks of field values are dropped. The functions below are the only
ones that decide either question.

* `lower` maps ASCII letters to lower case and leaves every other character alone.
* `trim` drops the characters that Unicode calls white space from both ends.
* `splitOn` cuts at every occurrence of a character, `cutAt` at the first one.

Main statements: `join_splitOn`, nothing but the separators is lost by a cut, and
`append_of_cutAt`, the same for the first one.
-/

namespace Switchboard.Text

/-! ### Case -/

/-- Replaces ASCII capitals by small letters. -/
def lower (text : String) : String := String.ofList (text.toList.map Char.toLower)

theorem toList_lower (text : String) : (lower text).toList = text.toList.map Char.toLower :=
  String.toList_ofList

/-- Replaces ASCII small letters by capitals. -/
def upper (text : String) : String := String.ofList (text.toList.map Char.toUpper)

/-- Says whether two names are equal up to the case of ASCII letters. -/
def sameName (one other : String) : Bool := lower one == lower other

theorem sameName_iff (one other : String) :
    sameName one other = true ↔ lower one = lower other := by
  simp [sameName]

theorem sameName_refl (name : String) : sameName name name = true := by simp [sameName]

/-- The characters with the Unicode property White_Space. -/
def isBlank (c : Char) : Bool :=
  let n := c.toNat
  (9 ≤ n && n ≤ 13) || n == 0x20 || n == 0x85 || n == 0xA0 || n == 0x1680
    || (0x2000 ≤ n && n ≤ 0x200A) || n == 0x2028 || n == 0x2029 || n == 0x202F || n == 0x205F
    || n == 0x3000

/-- Drops what satisfies `junk` from the end of a list. -/
def dropEndWhile (junk : Char → Bool) (text : List Char) : List Char :=
  (text.reverse.dropWhile junk).reverse

/-- Drops blanks from both ends. -/
def trimChars (text : List Char) : List Char := dropEndWhile isBlank (text.dropWhile isBlank)

/-- Drops blanks from both ends of a string. -/
def trim (text : String) : String := String.ofList (trimChars text.toList)

/-- Drops every leading and trailing occurrence of `c`. -/
def stripBoth (c : Char) (text : String) : String :=
  String.ofList (dropEndWhile (· == c) (text.toList.dropWhile (· == c)))

/-! ### Cuts -/

/-- Cuts at every occurrence of `c`; there is always at least one piece. -/
def splitOn (c : Char) : List Char → List (List Char)
  | [] => [[]]
  | d :: rest =>
    if d == c then [] :: splitOn c rest
    else match splitOn c rest with
      | [] => [[d]]
      | piece :: pieces => (d :: piece) :: pieces

/-- Joins pieces with `c` between them. -/
def joinWith (c : Char) : List (List Char) → List Char
  | [] => []
  | [piece] => piece
  | piece :: pieces => piece ++ c :: joinWith c pieces

theorem splitOn_ne_nil (c : Char) (text : List Char) : splitOn c text ≠ [] := by
  induction text with
  | nil => simp [splitOn]
  | cons d rest ih =>
    unfold splitOn
    split
    · simp
    · split <;> simp

/-- **A cut loses the separators only.** -/
theorem join_splitOn (c : Char) (text : List Char) : joinWith c (splitOn c text) = text := by
  induction text with
  | nil => rfl
  | cons d rest ih =>
    have nonempty := splitOn_ne_nil c rest
    unfold splitOn
    split
    · rename_i isSep
      have same : d = c := by simpa using isSep
      match pieces : splitOn c rest, nonempty, ih with
      | piece :: others, _, ih =>
        simp [joinWith, same] at ih ⊢
        exact ih
    · match pieces : splitOn c rest, nonempty, ih with
      | [piece], _, ih => simp [joinWith] at ih ⊢; exact ih
      | piece :: other :: others, _, ih => simp [joinWith] at ih ⊢; exact ih

/-- Cuts at the first occurrence of `c`, if there is one. -/
def cutAt (c : Char) : List Char → Option (List Char × List Char)
  | [] => none
  | d :: rest =>
    if d == c then some ([], rest)
    else (cutAt c rest).map fun (before, after) => (d :: before, after)

/-- What a cut returns, with the separator between, is the text. -/
theorem append_of_cutAt {c : Char} {text before after : List Char}
    (cut : cutAt c text = some (before, after)) : text = before ++ c :: after := by
  induction text generalizing before with
  | nil => simp [cutAt] at cut
  | cons d rest ih =>
    unfold cutAt at cut
    split at cut
    · rename_i isSep
      have same : d = c := by simpa using isSep
      simp at cut
      simp [same, cut.1, ← cut.2]
    · simp only [Option.map_eq_some_iff, Prod.exists, Prod.mk.injEq] at cut
      obtain ⟨front, back, found, rfl, rfl⟩ := cut
      simp [ih found]

/-- Cuts a string at every occurrence of `c`. -/
def split (c : Char) (text : String) : List String :=
  (splitOn c text.toList).map String.ofList

/-- Cuts a string at the first occurrence of `c`, if there is one. -/
def splitOnce (c : Char) (text : String) : Option (String × String) :=
  (cutAt c text.toList).map fun (before, after) => (String.ofList before, String.ofList after)

/-- Cuts off `start`, if the text begins with it. -/
def dropStart? (start text : List Char) : Option (List Char) :=
  if start.isPrefixOf text then some (text.drop start.length) else none

/-- Joins texts with `sep` between them. -/
def join (sep : String) : List String → String
  | [] => ""
  | [text] => text
  | text :: texts => text ++ sep ++ join sep texts

/-- Decimal digits of a natural number. -/
def decimal (n : Nat) : String := String.ofList (Nat.toDigits 10 n)

/-- Decimal digits of an integer, with a minus sign if it is negative. -/
def decimalInt (n : Int) : String := if n < 0 then "-" ++ decimal n.natAbs else decimal n.natAbs

/-- The hexadecimal digit of a number below sixteen, in lower case. -/
def hexDigit (n : Nat) : Char := if n < 10 then Char.ofNat (48 + n) else Char.ofNat (87 + n)

/-- The value of a hexadecimal digit, in either case. -/
def hexValue? (c : Char) : Option Nat :=
  let n := c.toNat
  if 48 ≤ n && n ≤ 57 then some (n - 48)
  else if 97 ≤ n && n ≤ 102 then some (n - 87)
  else if 65 ≤ n && n ≤ 70 then some (n - 55)
  else none

end Switchboard.Text
