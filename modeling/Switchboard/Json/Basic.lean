import Switchboard.Number.Written
import Switchboard.Text.Quoted
/-!
Documents: the values of JSON and how they are written.

Whole numbers of 64 bits keep their value; every other number is a double. The fields of an object
are kept in the order of their names, one field a name. Writing puts nothing between the parts.

* `Json.insertField` sets a field of an object.
* `Json.write` writes a document on one line.
* `Json.description` describes a document by the kinds of its parts.
-/

namespace Switchboard

/-- A number of a document. -/
inductive Numeral where
  | natural (n : Nat)
  /-- A number below zero that fits 64 bits. -/
  | negative (n : Int)
  | real (x : Number.Double)
  deriving DecidableEq, Repr, Inhabited

/-- A document. -/
inductive Json where
  | null
  | bool (b : Bool)
  | number (n : Numeral)
  | text (s : String)
  | list (items : List Json)
  | object (fields : List (String × Json))
  deriving Repr, Inhabited

/-! ### Numbers -/

/-- How doubles stand in documents. -/
def Numeral.realForm : Number.DoubleForm :=
  { least := -5, beyond := 16, plus := ['+'], tie := .even }

/-- The text of a number; what is not finite has none and is written as null. -/
def Numeral.text : Numeral → String
  | .natural n => Text.decimal n
  | .negative n => Text.decimalInt n
  | .real x => if x.isInfinite || x.isNaN then "null" else x.write realForm

/-- The number for an integer of 64 bits. -/
def Numeral.ofInt (n : Int) : Numeral := if n < 0 then .negative n else .natural n.toNat

namespace Json

/-! ### Fields -/

/-- Sets a field, keeping the names in order. -/
def insertField (name : String) (value : Json) : List (String × Json) → List (String × Json)
  | [] => [(name, value)]
  | (key, old) :: rest =>
    if name < key then (name, value) :: (key, old) :: rest
    else if name = key then (name, value) :: rest
    else (key, old) :: insertField name value rest

/-- An object with the given fields, of which the last of a name counts. -/
def ofFields (fields : List (String × Json)) : Json :=
  .object (fields.foldl (fun all (name, value) => insertField name value all) [])

/-- The field of a name, if the document is an object that has it. -/
def get? (name : String) : Json → Option Json
  | .object fields => fields.lookup name
  | _ => none

/-- The number of a natural number. -/
def nat (n : Nat) : Json := .number (.natural n)

/-! ### Writing -/

/-- A character of a string, escaped if it has to be. -/
def writeChar (c : Char) : List Char :=
  if c == '"' || c == '\\' then ['\\', c]
  else if c == '\n' then ['\\', 'n']
  else if c == '\r' then ['\\', 'r']
  else if c == '\t' then ['\\', 't']
  else if c.toNat == 8 then ['\\', 'b']
  else if c.toNat == 12 then ['\\', 'f']
  else if c.toNat < 32 then
    ['\\', 'u', '0', '0', Text.hexDigit (c.toNat / 16), Text.hexDigit (c.toNat % 16)]
  else [c]

/-- A string between quotes. -/
def writeText (s : String) : String :=
  String.ofList ('"' :: s.toList.flatMap writeChar ++ ['"'])

mutual

/-- A document on one line. -/
def write : Json → String
  | .null => "null"
  | .bool true => "true"
  | .bool false => "false"
  | .number n => n.text
  | .text s => writeText s
  | .list items => "[" ++ writeItems items ++ "]"
  | .object fields => "\x7b" ++ writeFields fields ++ "\x7d"

/-- The items of a list, with commas between them. -/
def writeItems : List Json → String
  | [] => ""
  | [item] => item.write
  | item :: items => item.write ++ "," ++ writeItems items

/-- The fields of an object, with commas between them. -/
def writeFields : List (String × Json) → String
  | [] => ""
  | [(name, value)] => writeText name ++ ":" ++ value.write
  | (name, value) :: fields =>
    writeText name ++ ":" ++ value.write ++ "," ++ writeFields fields

end

/-! ### Describing -/

mutual

/-- A description of a document. -/
def description : Json → String
  | .null => "Null"
  | .bool true => "Bool(true)"
  | .bool false => "Bool(false)"
  | .number n => "Number(" ++ n.text ++ ")"
  | .text s => "String(" ++ Text.Quoted.quote s ++ ")"
  | .list items => "Array " ++ Text.Quoted.bracket (itemDescriptions items)
  | .object fields => "Object \x7b" ++ Text.join ", " (fieldDescriptions fields) ++ "\x7d"

/-- The descriptions of the items of a list. -/
def itemDescriptions : List Json → List String
  | [] => []
  | item :: items => item.description :: itemDescriptions items

/-- The descriptions of the fields of an object. -/
def fieldDescriptions : List (String × Json) → List String
  | [] => []
  | (name, value) :: fields =>
    (Text.Quoted.quote name ++ ": " ++ value.description) :: fieldDescriptions fields

end

end Json

end Switchboard
