import Switchboard.Text.Table.Case
import Switchboard.Text.Table.Hidden
import Switchboard.Text.Basic
/-!
Quoted text, as it stands in descriptions of values.

A quoted text is set between double quotes. A quote and a backslash are written with a backslash
before them, tabs, line ends and the null character by a letter or digit, and every other character
that does not show by its code point in braces.
-/

namespace Switchboard.Text.Quoted

/-- Says whether a character shows on a page by itself. -/
def shows (c : Char) : Bool :=
  let n := c.toNat
  if n < 0x80 then 0x20 ≤ n && n < 0x7F else !Table.within Table.hiddenRanges n

/-- A character as it stands between quotes. -/
def writeChar (c : Char) : List Char :=
  if c == '"' || c == '\\' then ['\\', c]
  else if c == '\t' then ['\\', 't']
  else if c == '\n' then ['\\', 'n']
  else if c == '\r' then ['\\', 'r']
  else if c.toNat == 0 then ['\\', '0']
  else if shows c then [c]
  else ['\\', 'u', '\x7b'] ++ Nat.toDigits 16 c.toNat ++ ['\x7d']

/-- A text between quotes. -/
def quote (text : String) : String :=
  String.ofList ('"' :: text.toList.flatMap writeChar ++ ['"'])

/-- A list of descriptions between square brackets. -/
def bracket (items : List String) : String := "[" ++ join ", " items ++ "]"

/-- A named record with described fields, and a mark if some are left out. -/
def record (name : String) (fields : List (String × String)) (more : Bool) : String :=
  let shown := fields.map fun (field, text) => field ++ ": " ++ text
  let all := if more then shown ++ [".."] else shown
  name ++ " \x7b " ++ join ", " all ++ " \x7d"

/-- A described value that may be absent. -/
def optional (describe : α → String) : Option α → String
  | none => "None"
  | some value => "Some(" ++ describe value ++ ")"

end Switchboard.Text.Quoted
