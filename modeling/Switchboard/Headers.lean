import Switchboard.Number.Integer
/-!
Headers: an ordered list of named values.

A name may stand several times, and names are compared without regard to the case of ASCII letters.

* `insert` gives a name one value, in the place of the first one it had; `exchange` also returns that
  one.
* `append` adds a value at the end.
* `merge` gives every name of another list exactly the values it has there.
-/

namespace Switchboard

/-- A name and a value. -/
structure Header where
  name : String
  value : String
  deriving DecidableEq, Repr

/-- Headers in the order in which they stand in a message. -/
structure Headers where
  entries : List Header
  deriving DecidableEq, Repr, Inhabited

namespace Header

/-- Says whether a header has a name. -/
def isNamed (name : String) (header : Header) : Bool := Text.sameName header.name name

/-- A header as it stands in a description. -/
def text (header : Header) : String := header.name ++ ": " ++ header.value

end Header

namespace Headers

/-- No headers. -/
def empty : Headers := ⟨[]⟩

/-- Headers from pairs of name and value. -/
def ofPairs (pairs : List (String × String)) : Headers := ⟨pairs.map fun (n, v) => ⟨n, v⟩⟩

/-- The first value of a name. -/
def get? (headers : Headers) (name : String) : Option String :=
  (headers.entries.find? (Header.isNamed name)).map Header.value

/-- All values of a name, in order. -/
def getAll (headers : Headers) (name : String) : List String :=
  (headers.entries.filter (Header.isNamed name)).map Header.value

/-- Says whether a name has a value. -/
def contains (headers : Headers) (name : String) : Bool :=
  headers.entries.any (Header.isNamed name)

/-- Adds a value at the end. -/
def append (headers : Headers) (name value : String) : Headers :=
  ⟨headers.entries ++ [⟨name, value⟩]⟩

/-- Removes every value of a name. -/
def erase (headers : Headers) (name : String) : Headers :=
  ⟨headers.entries.filter fun header => !header.isNamed name⟩

/-- Puts a value in the place of the first one of a name and removes the others. -/
def replaceFirst (name value : String) : List Header → List Header
  | [] => [⟨name, value⟩]
  | header :: rest =>
    if header.isNamed name then
      { header with value } :: rest.filter fun other => !other.isNamed name
    else header :: replaceFirst name value rest

/-- Gives a name one value. The place and the spelling of the first entry are kept; a new name goes
to the end. -/
def insert (headers : Headers) (name value : String) : Headers :=
  ⟨replaceFirst name value headers.entries⟩

/-- Changes entries as `replaceFirst` does and returns the value that was replaced. -/
def exchangeFirst (name value : String) : List Header → Option String × List Header
  | [] => (none, [⟨name, value⟩])
  | header :: rest =>
    if header.isNamed name then
      (some header.value, { header with value } :: rest.filter fun other => !other.isNamed name)
    else
      let (former, others) := exchangeFirst name value rest
      (former, header :: others)

/-- Gives a name one value as `insert` does and returns the first one that it had. -/
def exchange (headers : Headers) (name value : String) : Option String × Headers :=
  let (former, entries) := exchangeFirst name value headers.entries
  (former, ⟨entries⟩)

/-- **A name has the value that it was given.** -/
theorem get?_insert (headers : Headers) (name value : String) :
    (headers.insert name value).get? name = some value := by
  unfold get? insert
  simp only
  induction headers.entries with
  | nil => simp [replaceFirst, Header.isNamed, Text.sameName_refl]
  | cons header rest ih =>
    unfold replaceFirst
    by_cases named : header.isNamed name = true
    · have still : Header.isNamed name { header with value } = true := named
      rw [if_pos named, List.find?_cons_of_pos still]
      rfl
    · rw [if_neg named, List.find?_cons_of_neg named]
      exact ih

/-- Adds the entries of another list, of which the first of each name replaces what was there.
`seen` holds the names that were met. -/
def mergeFrom (seen : List String) (headers : Headers) : List Header → Headers
  | [] => headers
  | header :: rest =>
    if seen.any fun name => Text.sameName name header.name then
      mergeFrom seen (headers.append header.name header.value) rest
    else mergeFrom (seen ++ [header.name]) (headers.insert header.name header.value) rest

/-- Gives every name of `other` the values it has there. -/
def merge (headers other : Headers) : Headers := mergeFrom [] headers other.entries

/-! ### Well-known names -/

def contentTypeName : String := "Content-Type"

def contentLengthName : String := "Content-Length"

def contentType? (headers : Headers) : Option String := headers.get? contentTypeName

/-- The announced length of the body, if it is a number of 64 bits. -/
def contentLength? (headers : Headers) : Option Nat := do
  let value ← headers.get? contentLengthName
  (Number.readWord (Text.trim value)).toOption

def location? (headers : Headers) : Option String := headers.get? "Location"

/-- A description of all entries. -/
def text (headers : Headers) : String :=
  "[" ++ Text.join ", " (headers.entries.map Header.text) ++ "]"

end Headers

end Switchboard
