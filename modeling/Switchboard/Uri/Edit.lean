import Switchboard.Text.Form
import Switchboard.Uri.Parser
/-!
Changing the parts of a URI.

* `withPath` and `withHost` set a part from text that is read as it is in a URI; `withoutQuery` and
  `withoutFragment` remove one.
* `segments` are the non-empty segments of a path; `append` adds to them and `replace` sets them.
* `queryPairs` are the decoded pairs of the query; `addPairs` and `withoutKey` change them.
-/

namespace Switchboard.Uri

open Text

/-- Sets the path. Marks of queries and fragments are read as characters of the path. -/
def withPath (uri : Uri) (text : String) : Uri :=
  let chars := dropBreaks [] text.toList
  match uri.path with
  | .literal _ => match text.toList with
    | '/' :: _ => { uri with path := match readLiteral (chars.drop 1) with
        | .literal rest => .literal ("%2F" ++ rest)
        | path => path }
    | _ => { uri with path := readLiteral chars }
  | .segments _ =>
    let isBare := !isWebScheme uri.scheme && (chars.head?.any fun c => c == '?' || c == '#')
    { uri with path := .segments (if isBare then [] else readPath uri.scheme chars) }

/-- Drops blanks at the end of a path without a hierarchy when nothing follows it. -/
def trimLiteral (uri : Uri) : Uri :=
  match uri.path, uri.query, uri.fragment with
  | .literal text, none, none =>
    { uri with path := .literal (String.ofList (dropEndWhile (· == ' ') text.toList)) }
  | _, _, _ => uri

/-- Removes the query. -/
def withoutQuery (uri : Uri) : Uri := trimLiteral { uri with query := none }

/-- Removes the fragment. -/
def withoutFragment (uri : Uri) : Uri := trimLiteral { uri with fragment := none }

/-- Sets the host. What follows a colon outside brackets is dropped. -/
def withHost (uri : Uri) (text : String) : Except UriFault Uri := do
  let isWeb := isWebScheme uri.scheme
  let chars := text.toList
  if uri.isLiteral then .error .hostOnLiteral
  else if text = "" ∧ isWeb ∧ uri.scheme ≠ "file" then .error .emptyHost
  else
    let isBracketed := chars.head? = some '[' && chars.getLast? = some ']'
    if !isBracketed ∧ chars.head? = some ':' then .error .hostCharacter
    else
      let name := if isBracketed then chars else chars.takeWhile (· != ':')
      let host ← if isWeb then Host.parseWeb name else Host.parseOther name
      let authority := uri.authority.getD
        { username := "", password := "", host := "", port := none }
      .ok { uri with authority := some { authority with host } }

/-! ### Segments -/

/-- The non-empty segments of the path, as they are written. -/
def segments (uri : Uri) : List String := (split '/' uri.pathText).filter (· ≠ "")

/-- Says whether a list of segments begins with another one, up to the case of letters. -/
def beginsWith (items front : List String) : Bool :=
  front.length ≤ items.length && (items.zip front).all fun (a, b) => sameName a b

/-- A segment with everything but letters, digits and `*-._` as bytes. -/
def encodeSegment (segment : String) : String :=
  String.ofList ((Form.write segment).flatMap fun c => if c == '+' then "%20".toList else [c])

/-- The non-empty pieces between the slashes of texts. -/
def piecesOf (texts : List String) : List String :=
  texts.flatMap fun text => (split '/' text).filter (· ≠ "")

/-- Adds segments, which are written as bytes where they have to be. -/
def append (uri : Uri) (texts : List String) : Uri :=
  let items := uri.segments ++ (piecesOf texts).map encodeSegment
  uri.withPath (if items = [] then "/" else Path.segmentsText items)

/-- Sets the segments, which are written as they are. -/
def replace (uri : Uri) (items : List String) : Uri :=
  uri.withPath ("/" ++ Text.join "/" items)

/-! ### Query pairs -/

/-- The decoded pairs of the query. -/
def queryPairs (uri : Uri) : List (String × String) :=
  match uri.query with
  | some query => Form.readPairs query.toList
  | none => []

/-- A query with pairs written after it. -/
def extendQuery (query : String) (pairs : List (String × String)) : String :=
  pairs.foldl (fun query pair =>
    (if query = "" then query else query ++ "&") ++ String.ofList (Form.writePair pair)) query

/-- Adds pairs to the query, which is there afterwards even if there are none. -/
def addPairs (uri : Uri) (pairs : List (String × String)) : Uri :=
  { uri with query := some (extendQuery (uri.query.getD "") pairs) }

/-- Writes the query anew without the pairs of a key; without pairs there is no query. -/
def withoutKey (uri : Uri) (key : String) : Uri :=
  match uri.queryPairs.filter fun pair => pair.1 ≠ key with
  | [] => uri.withoutQuery
  | pairs => uri.withoutQuery.addPairs pairs

end Switchboard.Uri
