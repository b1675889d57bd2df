import Switchboard.Uri.Edit
/-!
Cookies and the URIs that they are sent to.

The scope of a cookie is a URI of which host and path count. A cookie without a scope was received
without one, and a jar gives it one. A cookie is sent to the URIs that its scope covers: the host is
the same or a subdomain, and the path goes on where the path of the scope ends.

* `Cookie.matchesUri` says whether a cookie is sent to a URI.
* `Cookie.sameSlot` says whether two cookies take the same place in a jar.
* `Cookie.defaultPath` is the path of a scope that was not given.
-/

namespace Switchboard

/-- A cookie. The time of its end is in seconds since the start of 1970. -/
structure Cookie where
  name : String
  value : String
  scope : Option Uri
  expires : Option Int
  secure : Bool
  httpOnly : Bool
  deriving DecidableEq, Repr, Inhabited

namespace Cookie

/-- A cookie without a scope and an end. -/
def ofPair (name value : String) : Cookie :=
  { name, value, scope := none, expires := none, secure := false, httpOnly := false }

/-- The host of the scope. -/
def domain? (cookie : Cookie) : Option String := cookie.scope.bind Uri.host?

/-- The path of the scope; the root if there is none. -/
def path (cookie : Cookie) : String :=
  match cookie.scope with
  | some scope => scope.pathText
  | none => "/"

/-- Says whether the end of a cookie has come. -/
def isExpired (cookie : Cookie) (now : Int) : Bool :=
  match cookie.expires with
  | some moment => moment ≤ now
  | none => false

/-! ### Covering -/

/-- Says whether a host is another one or a subdomain of it. -/
def hostCovers (domain host : String) : Bool :=
  let domain := Text.lower domain
  let host := Text.lower host
  host == domain || ('.' :: domain.toList).isSuffixOf host.toList

/-- Says whether a path is another one or goes on where a segment of it ends. -/
def pathCovers (scope path : String) : Bool :=
  scope == "/" || scope == path
    || (scope.toList.isPrefixOf path.toList
      && (scope.toList.getLast? == some '/'
        || (path.toList.drop scope.toList.length).head? == some '/'))

/-- Says whether a scope covers a URI. -/
def covers (scope uri : Uri) : Bool :=
  let hosts := match scope.host?, uri.host? with
    | some domain, some host => hostCovers domain host
    | none, none => true
    | _, _ => false
  hosts && pathCovers scope.pathText uri.pathText

/-- Says whether a secure cookie may be sent by a scheme. -/
def isSecureScheme (scheme : String) : Bool := scheme == "https" || scheme == Uri.localScheme

/-- Says whether a cookie is sent to a URI at a time. -/
def matchesUri (cookie : Cookie) (uri : Uri) (now : Int) : Bool :=
  !cookie.isExpired now && (!cookie.secure || isSecureScheme uri.scheme)
    && match cookie.scope with
      | some scope => covers scope uri
      | none => true

/-! ### Slots -/

/-- What tells the places in a jar apart: name, host and path. -/
structure Slot where
  name : String
  host : Option String
  path : String
  deriving DecidableEq, Repr

/-- The place of a cookie in a jar. -/
def slot (cookie : Cookie) : Slot :=
  { name := cookie.name, host := cookie.domain?.map Text.lower, path := cookie.path }

/-- Says whether two cookies take the same place. -/
def sameSlot (one other : Cookie) : Bool := one.slot == other.slot

/-! ### Scopes -/

/-- The path up to the last slash before its last segment. -/
def parentPath (path : List Char) : List Char :=
  match (path.reverse.dropWhile (· != '/')) with
  | _ :: front => front.reverse
  | [] => []

/-- The path of a scope when a response names none: the one above the path of the request. -/
def defaultPath (source : Uri) : String :=
  match parentPath source.pathText.toList with
  | [] => "/"
  | front => String.ofList front

/-- A URI with another path and nothing after it. -/
def scopeAt (uri : Uri) (path : String) : Uri := ((uri.withPath path).withoutQuery).withoutFragment

/-- The scope of a cookie that was received without one. -/
def defaultScope (source : Uri) : Uri := scopeAt source (defaultPath source)

end Cookie

end Switchboard
