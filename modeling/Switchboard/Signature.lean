import Switchboard.Text.Lowercase
import Switchboard.Text.Percent
import Switchboard.Text.Quoted
/-!
Signatures: which paths a feature serves and what it captures of them.

A signature is written as tokens between slashes. `name` is a constant, `\x7bname\x7d` captures a
segment under a name and `*` captures one under its position. After these come `?` tokens, each of
which lets one more segment follow, and at the very end an empty token and a `*` let any number
follow. A slash at the start and one at the end do not count.

Constants are compared with the decoded segments of a path in small letters. A constant that decodes
to a single star accepts any segment.

* `Signature.read` reads a signature below a base.
* `Signature.accepts` says whether it serves a path, and `Signature.capture?` returns what it
  captures of one that it serves.
* `Signature.pattern` writes a signature together with its base.
-/

namespace Switchboard

/-- What stands at one position of a signature. -/
inductive Place where
  /-- A text that the segment must be, in small letters. -/
  | constant (text : String)
  /-- Any segment, captured under a name. -/
  | capture (name : String)
  deriving DecidableEq, Repr

/-- How many segments may follow the last position. -/
inductive Extent where
  | atMost (count : Nat)
  | unbounded
  deriving DecidableEq, Repr

/-- Which paths a feature serves. -/
structure Signature where
  /-- The text that was read. -/
  written : String
  places : List Place
  extent : Extent
  deriving DecidableEq, Repr

/-- What a signature captures of a path. -/
structure PathArguments where
  /-- The segments captured without a name and those after the last position. -/
  suffixes : List String
  /-- The captured segments with their names in small letters. -/
  captures : List (String × String)
  deriving DecidableEq, Repr, Inhabited

/-- Why a text is no signature. -/
inductive SignatureFault where
  /-- There is an empty token that is not the one before a final star. -/
  | strayEmpty
  /-- A token follows one that need not be there. -/
  | afterOptional (token : String)
  | badName (token : String)
  | malformed (token : String)
  deriving DecidableEq, Repr

/-- The wording of a fault. -/
def SignatureFault.message : SignatureFault → String
  | .strayEmpty => "an empty segment may only precede a final '*'"
  | .afterOptional token => "'" ++ token ++ "' cannot follow an optional segment"
  | .badName token => "invalid parameter name in '" ++ token ++ "'"
  | .malformed token => "malformed segment '" ++ token ++ "'"

namespace Extent

/-- Says whether so many segments may follow. -/
def allows (extent : Extent) (count : Nat) : Bool :=
  match extent with
  | .atMost most => count ≤ most
  | .unbounded => true

/-- The number of segments that may follow, where no bound is the greatest number of 64 bits. -/
def toNat : Extent → Nat
  | .atMost count => count
  | .unbounded => 18446744073709551615

end Extent

namespace Place

/-- Says whether a place is a constant. -/
def isConstant : Place → Bool
  | .constant _ => true
  | .capture _ => false

/-- The text of a place: a constant, or a star for a capture. -/
def text : Place → String
  | .constant text => text
  | .capture _ => "*"

/-- The name of a capture. -/
def name? : Place → Option String
  | .constant _ => none
  | .capture name => some name

/-- The name that a capture has by its position. -/
def positional (index : Nat) : String := Text.decimal index

/-- A place of a position as it is written in a pattern. -/
def pattern (place : Place) (index : Nat) : String :=
  match place with
  | .constant text => text
  | .capture name => if name = positional index then "*" else "\x7b" ++ name ++ "\x7d"

end Place

namespace Signature

/-! ### Segments -/

/-- A segment of a path without percent codes; one whose bytes are not UTF-8 stays as it is. -/
def decodeSegment (segment : String) : String :=
  match Text.Utf8.decode? (Text.Percent.decode segment) with
  | .ok text => text
  | .error _ => segment

/-- A segment as it is compared. -/
def foldSegment (segment : String) : String := Text.Lowercase.ofString (decodeSegment segment)

/-! ### Reading -/

/-- The characters with a meaning in tokens. -/
def isMark (c : Char) : Bool := c ∈ ['\x7b', '\x7d', '*', '?']

/-- What stands between the braces of a token. -/
def braced? (token : String) : Option String :=
  match token.toList with
  | '\x7b' :: rest =>
    if rest.getLast? = some '\x7d' then some (String.ofList rest.dropLast) else none
  | _ => none

/-- Reads a token that stands for one segment. -/
def readToken (index : Nat) (token : String) : Except SignatureFault Place :=
  if token = "*" then .ok (.capture (Place.positional index))
  else match braced? token with
    | some inner =>
      let name := Text.trim inner
      if name = "" ∨ name.toList.any isMark then .error (.badName token) else .ok (.capture name)
    | none =>
      if token.toList.any isMark then .error (.malformed token)
      else .ok (.constant (foldSegment token))

/-- Reads the tokens after the places that are known and `optional` tokens that need not be
there. -/
def readTokens (places : List Place) (optional : Nat) :
    List String → Except SignatureFault (List Place × Extent)
  | [] => .ok (places, .atMost optional)
  | token :: rest =>
    if token = "" then
      if rest = ["*"] then .ok (places, .unbounded) else .error .strayEmpty
    else if token = "?" then readTokens places (optional + 1) rest
    else if 0 < optional then .error (.afterOptional token)
    else match readToken places.length token with
      | .ok place => readTokens (places ++ [place]) optional rest
      | .error fault => .error fault

/-- Drops one slash at the start and then one at the end. -/
def dropSlashes (text : List Char) : List Char :=
  let text := match text with
    | '/' :: rest => rest
    | text => text
  if text.getLast? = some '/' then text.dropLast else text

/-- The tokens of a signature. -/
def tokens (written : String) : List String :=
  match dropSlashes written.toList with
  | [] => []
  | text => (Text.splitOn '/' text).map String.ofList

/-- The places of a base. -/
def basePlaces (base : List String) : List Place :=
  (base.filter (· ≠ "")).map fun segment => .constant (foldSegment segment)

/-- Reads a signature below the encoded segments of a base. -/
def read (base : List String) (written : String) : Except SignatureFault Signature :=
  match readTokens (basePlaces base) 0 (tokens written) with
  | .ok (places, extent) => .ok { written, places, extent }
  | .error fault => .error fault

/-! ### Parts -/

/-- The number of segments of the shortest path. -/
def fixedLength (signature : Signature) : Nat := signature.places.length

/-- The number of constants. -/
def constantCount (signature : Signature) : Nat := signature.places.countP Place.isConstant

/-- The captures with their positions. -/
def captureNames (signature : Signature) : List (Nat × String) :=
  signature.places.zipIdx.filterMap fun (place, index) => place.name?.map fun name => (index, name)

/-- Says whether a segment is captured under a name. -/
def captures (signature : Signature) (name : String) : Bool :=
  signature.captureNames.any fun (_, other) => Text.sameName other name

/-- The tokens for the segments that need not be there. -/
def extentText : Extent → String
  | .atMost count => String.join (List.replicate count "/?")
  | .unbounded => "//*"

/-- A signature as it is written at the root. -/
def pattern (signature : Signature) : String :=
  let places := signature.places.zipIdx.map fun (place, index) => "/" ++ place.pattern index
  let text := String.join places ++ extentText signature.extent
  if text = "" then "/" else text

/-- A description of a signature. -/
def text (signature : Signature) : String :=
  let captures := signature.captureNames.map fun (index, name) =>
    "(" ++ Text.decimal index ++ ", " ++ Text.Quoted.quote name ++ ")"
  Text.Quoted.record "FeatureSignature"
    [("pattern", Text.Quoted.quote signature.pattern), ("params", Text.Quoted.bracket captures),
      ("optional", Text.decimal signature.extent.toNat)] false

/-! ### Paths -/

/-- Says whether a place accepts a segment. -/
def acceptsSegment (place : Place) (segment : String) : Bool :=
  place.text == "*" || foldSegment segment == place.text

/-- Says whether a signature serves the path with the given encoded segments. -/
def accepts (signature : Signature) (path : List String) : Bool :=
  signature.fixedLength ≤ path.length
    && signature.extent.allows (path.length - signature.fixedLength)
    && (signature.places.zip path).all fun (place, segment) => acceptsSegment place segment

/-- The captured segments of a path, decoded, with their positions and names. -/
def captured (signature : Signature) (path : List String) : List (Nat × String × String) :=
  (signature.places.zip path).zipIdx.filterMap fun ((place, segment), index) =>
    place.name?.map fun name => (index, name, decodeSegment segment)

/-- What a signature captures of a path, if it serves the path. -/
def capture? (signature : Signature) (path : List String) : Option PathArguments :=
  if signature.accepts path then
    let found := signature.captured path
    let unnamed := found.filterMap fun (index, name, value) =>
      if name = Place.positional index then some value else none
    some { suffixes := unnamed ++ (path.drop signature.fixedLength).map decodeSegment
           captures := found.map fun (_, name, value) => (Text.lower name, value) }
  else none

end Signature

namespace PathArguments

/-- Nothing captured. -/
def none : PathArguments := { suffixes := [], captures := [] }

/-- All segments that were captured under a name. -/
def getAll (arguments : PathArguments) (name : String) : List String :=
  (arguments.captures.filter fun capture => capture.1 == Text.lower name).map Prod.snd

/-- The first segment that was captured under a name. -/
def get? (arguments : PathArguments) (name : String) : Option String :=
  (arguments.getAll name).head?

end PathArguments

end Switchboard
