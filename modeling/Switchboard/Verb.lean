import Switchboard.Text.Basic
/-!
Verbs of requests.

A verb is a token of HTTP: one or more letters, digits and certain marks. Its case counts.
-/

namespace Switchboard

/-- The verb of a request. -/
structure Verb where
  name : String
  deriving DecidableEq, Repr, Inhabited

namespace Verb

/-- The marks that may stand in a verb. -/
def marks : List Char :=
  ['!', '#', '$', '%', '&', '\'', '*', '+', '-', '.', '^', '_', Char.ofNat 0x60, '|', '~']

/-- Says whether a character may stand in a verb. -/
def isTokenChar (c : Char) : Bool := c.isAlphanum || c ∈ marks

/-- The verb of a name, if the name is a token. -/
def ofName? (name : String) : Option Verb :=
  if name.toList ≠ [] ∧ name.toList.all isTokenChar then some ⟨name⟩ else none

def get : Verb := ⟨"GET"⟩
def head : Verb := ⟨"HEAD"⟩
def options : Verb := ⟨"OPTIONS"⟩
def delete : Verb := ⟨"DELETE"⟩
def post : Verb := ⟨"POST"⟩
def put : Verb := ⟨"PUT"⟩
def patch : Verb := ⟨"PATCH"⟩

end Verb

end Switchboard
