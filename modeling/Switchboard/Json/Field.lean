import Switchboard.Json.Basic
/-!
Taking documents apart and putting them together.

A field that is null counts as missing.
-/

namespace Switchboard.Json

/-! ### Taking apart -/

def text? : Json → Option String
  | .text s => some s
  | _ => none

def nat? : Json → Option Nat
  | .number (.natural n) => some n
  | _ => none

def int? : Json → Option Int
  | .number (.natural n) => some n
  | .number (.negative n) => some n
  | _ => none

def items? : Json → Option (List Json)
  | .list items => some items
  | _ => none

/-- A list of two texts. -/
def pair? : Json → Option (String × String)
  | .list [.text a, .text b] => some (a, b)
  | _ => none

/-- The texts in a list. -/
def texts (j : Json) : List String := ((items? j).getD []).filterMap text?

/-- The pairs of texts in a list. -/
def pairs (j : Json) : List (String × String) := ((items? j).getD []).filterMap pair?

/-- A field that is there and not null. -/
def field? (j : Json) (key : String) : Option Json :=
  match j.get? key with
  | some .null => none
  | other => other

/-- A field, or null. -/
def field (j : Json) (key : String) : Json := (j.field? key).getD .null

def fieldText? (j : Json) (key : String) : Option String := (j.field? key).bind text?

def fieldNat? (j : Json) (key : String) : Option Nat := (j.field? key).bind nat?

/-- The text of a field, or another one if the field has none. -/
def textOr (j : Json) (key fallback : String) : String := (j.fieldText? key).getD fallback

/-- The number of a field, or another one if the field has none. -/
def natOr (j : Json) (key : String) (fallback : Nat) : Nat := (j.fieldNat? key).getD fallback

/-- The number of a field, or another one if the field has none. -/
def intOr (j : Json) (key : String) (fallback : Int) : Int :=
  ((j.field? key).bind int?).getD fallback

/-- Says whether a field is true. -/
def isSet (j : Json) (key : String) : Bool :=
  match j.get? key with
  | some (.bool b) => b
  | _ => false

/-- The items of a field. -/
def itemsOf (j : Json) (key : String) : List Json := ((j.field? key).bind items?).getD []

/-! ### Putting together -/

/-- The number of an integer. -/
def int (n : Int) : Json := .number (Numeral.ofInt n)

/-- A value, or null. -/
def orNull (write : α → Json) : Option α → Json
  | some value => write value
  | none => .null

/-- A list of texts. -/
def ofTexts (texts : List String) : Json := .list (texts.map .text)

/-- A list of two texts. -/
def ofPair (pair : String × String) : Json := .list [.text pair.1, .text pair.2]

end Switchboard.Json
