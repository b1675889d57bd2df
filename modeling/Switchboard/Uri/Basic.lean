import Switchboard.Text.Basic
/-!
Uniform resource identifiers, in parts.

A URI has a scheme, perhaps an authority, a path, perhaps a query and perhaps a fragment. All parts
are kept as they are written, that is with percent codes in them.

The path of a URI with a hierarchy is a list of segments, each of which a slash comes before; it may
be empty. Any other path is one text that does not start with a slash, and such a URI can serve as
the base of nothing but a fragment.

A URI that is read without an authority and has a path that begins with two slashes is written with
a dot between the scheme and the path. The dot stays when the host or the path are set afterwards,
and setting a path does not bring one in.

* `Uri.text` writes a URI.
* `Uri.pathText` writes its path.
* `Uri.host?` is its host, where an empty host counts as none.
-/

namespace Switchboard

/-- Who serves a URI, with the credentials and the port that were given. -/
structure Authority where
  username : String
  password : String
  host : String
  port : Option Nat
  deriving DecidableEq, Repr, Inhabited

/-- Where a URI points within its authority. -/
inductive Path where
  | segments (items : List String)
  | literal (text : String)
  deriving DecidableEq, Repr, Inhabited

/-- A uniform resource identifier. -/
structure Uri where
  scheme : String
  authority : Option Authority
  /-- Whether a slash and a dot that are not part of the path are written before it. -/
  dotted : Bool
  path : Path
  query : Option String
  fragment : Option String
  deriving DecidableEq, Repr, Inhabited

/-! ### Writing -/

/-- The user part of an authority, with the sign after it. -/
def Authority.userText (authority : Authority) : String :=
  let password := if authority.password = "" then "" else ":" ++ authority.password
  if authority.username = "" ∧ authority.password = "" then ""
  else authority.username ++ password ++ "@"

/-- An authority as it stands after the two slashes. -/
def Authority.text (authority : Authority) : String :=
  let port := match authority.port with
    | some port => ":" ++ Text.decimal port
    | none => ""
  authority.userText ++ authority.host ++ port

/-- The text of a list of segments. -/
def Path.segmentsText (items : List String) : String :=
  items.foldr (fun item rest => "/" ++ item ++ rest) ""

/-- The text of a path. -/
def Path.text : Path → String
  | .segments items => segmentsText items
  | .literal text => text

/-- Says whether a path begins with two slashes, so that without a dot it would read as a host. -/
def Path.needsDot : Path → Bool
  | .segments ("" :: _ :: _) => true
  | _ => false

namespace Uri

/-- The text of the path. -/
def pathText (uri : Uri) : String := uri.path.text

/-- What stands between the scheme and the path. -/
def authorityText (uri : Uri) : String :=
  let authority := match uri.authority with
    | some authority => "//" ++ authority.text
    | none => ""
  if uri.dotted then authority ++ "/." else authority

/-- An optional part with its mark. -/
def marked (mark : String) : Option String → String
  | some text => mark ++ text
  | none => ""

/-- The text of a URI after its scheme. -/
def restText (uri : Uri) : String :=
  ":" ++ uri.authorityText ++ uri.pathText ++ marked "?" uri.query ++ marked "#" uri.fragment

/-- The text of a URI. -/
def text (uri : Uri) : String := uri.scheme ++ uri.restText

/-! ### Parts -/

/-- The host, unless it is empty. -/
def host? (uri : Uri) : Option String :=
  match uri.authority with
  | some authority => if authority.host = "" then none else some authority.host
  | none => none

/-- The port of a scheme when none is given. -/
def defaultPort? (scheme : String) : Option Nat :=
  if scheme = "http" ∨ scheme = "ws" then some 80
  else if scheme = "https" ∨ scheme = "wss" then some 443
  else if scheme = "ftp" then some 21
  else none

/-- The port that was given or the one of the scheme. -/
def port? (uri : Uri) : Option Nat :=
  match uri.authority.bind Authority.port with
  | some port => some port
  | none => defaultPort? uri.scheme

/-- The schemes of the web, whose URIs always have a hierarchy. -/
def isWebScheme (scheme : String) : Bool :=
  scheme ∈ ["http", "https", "ws", "wss", "ftp", "file"]

/-- Says whether the path is one text without a hierarchy. -/
def isLiteral (uri : Uri) : Bool :=
  match uri.path with
  | .literal _ => true
  | .segments _ => false

/-- The scheme of endpoints in the same process. -/
def localScheme : String := "local"

/-- Says whether a URI names something in the same process. -/
def isLocal (uri : Uri) : Bool := Text.sameName uri.scheme localScheme

/-- Says whether two URIs have scheme, host and port in common. -/
def sameOrigin (one other : Uri) : Bool :=
  Text.sameName one.scheme other.scheme && one.host?.map Text.lower == other.host?.map Text.lower
    && one.port? == other.port?

end Uri

end Switchboard
