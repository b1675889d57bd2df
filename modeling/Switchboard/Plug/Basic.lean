import Switchboard.Activity
import Switchboard.Message.Basic
import Switchboard.Settings.Limits
import Switchboard.Text.Base64
import Switchboard.Verb
/-!
Plugs: where and how to send requests.

A plug is a value. Each function that changes a setting returns another plug and leaves the first
one alone.

* `Plug.dress` puts what a plug adds to every request on a request: cookies of a jar unless the
  request has one of that name, the headers of the plug in the place of those of the request, and
  credentials unless there is an authorization.
* `Plug.redirect?` is the plug and the request that follow a redirect.
-/

namespace Switchboard

/-- A name and a password. -/
structure Credentials where
  username : String
  password : String
  deriving DecidableEq, Repr

/-- What sees a message on its way, with the verb, the URI of the plug and the URI that the endpoint
made of it. -/
abbrev MessageHandler (σ : Type) := Verb → Uri → Uri → Message → Activity σ (Option Message)

/-- Where and how to send requests. -/
structure Plug (σ : Type) where
  uri : Uri
  timeout : Span
  headers : Headers
  credentials : Option Credentials
  /-- The jar to use in the place of the ambient one. -/
  jar : Option JarName
  /-- What sees requests before they are sent, in order. -/
  before : List (MessageHandler σ)
  /-- What sees the last response, in order. -/
  after : List (MessageHandler σ)
  maxRedirects : Nat
  redirectPolicy : Settings.RedirectPolicy
  /-- How many bytes of a streamed response are read into memory. -/
  maxBytes : Nat

variable {σ : Type}

/-! ### Credentials -/

namespace Credentials

/-- The name of the header for credentials. -/
def headerName : String := "Authorization"

/-- The value of the header for credentials. -/
def header (credentials : Credentials) : String :=
  let pair := credentials.username ++ ":" ++ credentials.password
  "Basic " ++ String.ofList (Text.Base64.encode (Text.Utf8.encode pair))

/-- A description that does not tell the password. -/
def text (credentials : Credentials) : String :=
  Text.Quoted.record "Credentials"
    [("username", Text.Quoted.quote credentials.username), ("password", "\"***\"")] false

end Credentials

namespace Plug

/-! ### Making plugs -/

/-- A plug with the settings that calls start from. -/
def of (uri : Uri) (settings : Settings.CallSettings) : Plug σ :=
  { uri, timeout := settings.timeout, headers := Headers.empty, credentials := none, jar := none
    before := [], after := [], maxRedirects := settings.maxRedirects
    redirectPolicy := settings.redirectPolicy, maxBytes := settings.maxBytes }

/-- Adds segments to the path. -/
def below (plug : Plug σ) (segments : List String) : Plug σ :=
  { plug with uri := plug.uri.append segments }

/-- Adds the segments of an encoded path to the path. -/
def belowPath (plug : Plug σ) (path : String) : Plug σ :=
  { plug with uri := plug.uri.replace (plug.uri.segments ++ Uri.piecesOf [path]) }

/-- Adds a pair to the query. -/
def withPair (plug : Plug σ) (key value : String) : Plug σ :=
  { plug with uri := plug.uri.addPairs [(key, value)] }

/-- Adds pairs to the query. -/
def withPairs (plug : Plug σ) (pairs : List (String × String)) : Plug σ :=
  { plug with uri := plug.uri.addPairs pairs }

/-- Removes the pairs of a key from the query. -/
def withoutKey (plug : Plug σ) (key : String) : Plug σ :=
  { plug with uri := plug.uri.withoutKey key }

/-- Sets a header for every request. -/
def withHeader (plug : Plug σ) (name value : String) : Plug σ :=
  { plug with headers := plug.headers.insert name value }

/-- Sets headers for every request. -/
def withHeaders (plug : Plug σ) (headers : Headers) : Plug σ :=
  { plug with headers := plug.headers.merge headers }

/-- Removes a header. -/
def withoutHeader (plug : Plug σ) (name : String) : Plug σ :=
  { plug with headers := plug.headers.erase name }

/-- Adds what sees requests before they are sent. -/
def withBefore (plug : Plug σ) (handler : MessageHandler σ) : Plug σ :=
  { plug with before := plug.before ++ [handler] }

/-- Adds what sees the last response. -/
def withAfter (plug : Plug σ) (handler : MessageHandler σ) : Plug σ :=
  { plug with after := plug.after ++ [handler] }

/-- A description of a plug. -/
def text (plug : Plug σ) : String :=
  Text.Quoted.record "Plug"
    [("uri", Text.Quoted.quote plug.uri.text), ("timeout", plug.timeout.text),
      ("headers", plug.headers.text),
      ("credentials", Text.Quoted.optional Credentials.text plug.credentials),
      ("max_auto_redirects", Text.decimal plug.maxRedirects),
      ("pre_handlers", Text.decimal plug.before.length),
      ("post_handlers", Text.decimal plug.after.length)] true

/-! ### Requests -/

/-- Adds a cookie unless there is one of that name. -/
def addMissing (request : Message) (cookie : Cookie) : Message :=
  if request.cookies.any fun other => other.name == cookie.name then request
  else request.addCookie cookie

/-- Adds credentials unless there is an authorization. -/
def authorize (credentials : Option Credentials) (request : Message) : Message :=
  match credentials with
  | some credentials =>
    if request.headers.contains Credentials.headerName then request
    else request.setHeader Credentials.headerName credentials.header
  | none => request

/-- A request as a plug sends it with the cookies of a jar. -/
def dress (plug : Plug σ) (cookies : List Cookie) (request : Message) : Message :=
  let request := cookies.foldl addMissing request
  authorize plug.credentials { request with headers := request.headers.merge plug.headers }

/-! ### Redirects -/

/-- The names of the headers that tell who is calling. -/
def identifying : List String := [Credentials.headerName, "Proxy-Authorization", "Cookie"]

/-- Headers without those that tell who is calling. -/
def anonymous (headers : Headers) : Headers := identifying.foldl Headers.erase headers

/-- Says whether a redirect to a place must not tell who is calling. -/
def crosses (plug : Plug σ) (target : Uri) : Bool :=
  plug.redirectPolicy = .sameOrigin && !plug.uri.sameOrigin target

/-- The plug and the request for the place that a redirect leads to. -/
def redirectTo (plug : Plug σ) (target : Uri) (request : Message) : Plug σ × Message :=
  let next := { plug with uri := target, maxRedirects := plug.maxRedirects - 1 }
  if plug.crosses target then
    ({ next with headers := anonymous plug.headers, credentials := none },
      { request with headers := anonymous request.headers, cookies := [] })
  else (next, request)

/-- The place that a response leads to, if it leads to one. -/
def target? (plug : Plug σ) (response : Message) : Option Uri := do
  let location ← response.headers.location?
  (plug.uri.join location).toOption

/-- The plug and the request that follow a response, if it is a redirect to follow and there is a
copy of the request to send. -/
def redirect? (plug : Plug σ) (replay : Option Message) (response : Message) :
    Option (Plug σ × Message) :=
  if response.status.isFollowable ∧ 0 < plug.maxRedirects then do
    let target ← plug.target? response
    let request ← replay
    return plug.redirectTo target request
  else none

end Plug

end Switchboard
