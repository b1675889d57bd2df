import Switchboard.Cookie.Basic
import Switchboard.Time.Calendar
/-!
The header fields of cookies.

A response sets a cookie by a pair of name and value and attributes after it, separated by
semicolons. Of a repeated attribute the last one counts. An attribute that is unknown is passed over,
and so are a blank domain and a path without a slash in front; a date or an age that cannot be read
takes the place of an earlier one. `Max-Age` comes before `Expires`. A cookie is scoped if its domain
or its path is given, and what is not given comes from the URI of the request.

* `Cookie.ofSetCookie?` reads such a field.
* `Cookie.setCookieText?` writes one.
* `Cookie.requestText` writes the field by which a request sends cookies.
-/

namespace Switchboard.Cookie

/-- What the attributes of a cookie say. -/
structure Attributes where
  domain : Option String
  path : Option String
  expires : Option Int
  maxAge : Option Int
  secure : Bool
  httpOnly : Bool
  deriving DecidableEq, Repr

/-- The attributes of a cookie that has none. -/
def Attributes.unset : Attributes :=
  { domain := none, path := none, expires := none, maxAge := none
    secure := false, httpOnly := false }

/-- The longest time that a cookie may ask to be kept, in seconds. -/
def maxAgeCeiling : Int := 400 * 24 * 60 * 60

/-- Takes one attribute into account. -/
def Attributes.add (attributes : Attributes) (text : String) : Attributes :=
  let (key, value) := (Text.splitOnce '=' text).getD (text, "")
  let key := Text.lower (Text.trim key)
  let value := Text.trim value
  if key = "domain" ∧ value ≠ "" then
    { attributes with
      domain := some (Text.lower (String.ofList (value.toList.dropWhile (· == '.')))) }
  else if key = "path" ∧ value.toList.head? = some '/' then { attributes with path := some value }
  else if key = "expires" then { attributes with expires := Calendar.read? value }
  else if key = "max-age" then { attributes with maxAge := (Number.readInt64 value).toOption }
  else if key = "secure" then { attributes with secure := true }
  else if key = "httponly" then { attributes with httpOnly := true }
  else attributes

/-- The end of a cookie that is received at a time. -/
def Attributes.ending (attributes : Attributes) (now : Int) : Option Int :=
  match attributes.maxAge with
  | some seconds => some (if seconds ≤ 0 then 0 else now + min seconds maxAgeCeiling)
  | none => attributes.expires

/-- The scope that attributes ask for: `none` if the domain is no host, and no scope if they do not
ask for one. -/
def Attributes.scope? (attributes : Attributes) (source : Uri) : Option (Option Uri) :=
  match attributes.domain, attributes.path with
  | none, none => some none
  | some domain, path =>
    (source.withHost domain).toOption.map fun scope =>
      some (scopeAt scope (path.getD (defaultPath source)))
  | none, some path => some (some (scopeAt source path))

/-- Reads the field by which a response sets a cookie. -/
def ofSetCookie? (field : String) (source : Uri) (now : Int) : Option Cookie :=
  match Text.split ';' field with
  | [] => none
  | pair :: attributes => do
    let (name, value) ← Text.splitOnce '=' pair
    let name := Text.trim name
    guard (name ≠ "")
    let attributes := attributes.foldl Attributes.add Attributes.unset
    let scope ← attributes.scope? source
    return { name, value := Text.stripBoth '"' (Text.trim value), scope
             expires := attributes.ending now
             secure := attributes.secure, httpOnly := attributes.httpOnly }

/-- The pair of name and value. -/
def pairText (cookie : Cookie) : String := cookie.name ++ "=" ++ cookie.value

/-- Writes the field by which a response sets a cookie, unless its end has no written form. -/
def setCookieText? (cookie : Cookie) : Option String := do
  let domain := match cookie.domain? with
    | some domain => "; Domain=" ++ domain
    | none => ""
  let path := if cookie.scope.isSome then "; Path=" ++ cookie.path else ""
  let expires ← match cookie.expires with
    | some moment => (Calendar.render? moment).map ("; Expires=" ++ ·)
    | none => some ""
  let secure := if cookie.secure then "; Secure" else ""
  let httpOnly := if cookie.httpOnly then "; HttpOnly" else ""
  return cookie.pairText ++ domain ++ path ++ expires ++ secure ++ httpOnly

/-- Writes the field by which a request sends cookies. -/
def requestText (cookies : List Cookie) : String := Text.join "; " (cookies.map pairText)

end Switchboard.Cookie
