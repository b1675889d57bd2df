import Switchboard.Cookie.SetCookie
import Switchboard.Endpoint.Basic
import Switchboard.Feature.Extraction
/-!
Endpoints of the web.

A request goes over the wire with its headers, apart from the announced length, which the wire
finds by itself, and the cookies. All cookies of a request, those written in its headers and its
own, make up one header. A response comes back with headers in the order in which they arrived and a
body that is still to be read; what its headers set as cookies becomes cookies.

* `Wire.request` is what goes over the wire for a message.
* `Wire.cookieLine?` is the one header for cookies.
* `Wire.message` is the message for what comes back.
-/

namespace Switchboard

/-- What goes over the wire. -/
structure WireRequest where
  verb : Verb
  uri : Uri
  headers : List Header
  /-- The body, as it will arrive. -/
  body : Stream
  deriving Repr

/-- What comes back. -/
structure WireResponse where
  status : Status
  /-- Names and values, of which the values are bytes. -/
  headers : List (String × Text.Bytes)
  body : Stream
  length : Option Nat
  deriving Repr

/-- Why nothing comes back. -/
inductive WireFault where
  /-- Nobody is there. -/
  | unreachable
  /-- Whoever is there went away. -/
  | broken
  /-- The other side waited too long. -/
  | slow
  deriving DecidableEq, Repr

/-- What carries requests to the other side. -/
abbrev Carrier (σ : Type) := WireRequest → Activity σ (Except WireFault WireResponse)

variable {σ : Type}

namespace Wire

/-! ### Requests -/

/-- The name of the header by which a response sets a cookie. -/
def setCookieName : String := "Set-Cookie"

/-- The type of a body that has none. -/
def mimeBinary : String := "application/octet-stream"

/-- The values of the headers for cookies that are not blank. -/
def writtenLines (request : Message) : List String :=
  ((request.headers.getAll Message.cookieHeader).map Text.trim).filter (· ≠ "")

/-- The value of the one header for cookies, if there are cookies. -/
def cookieLine? (request : Message) : Option String :=
  let lines := writtenLines request
    ++ (if request.cookies = [] then [] else [Cookie.requestText request.cookies])
  if lines = [] then none else some (Text.join "; " lines)

/-- Says whether a header goes over the wire as it is. -/
def isCarried (header : Header) : Bool :=
  !header.isNamed Headers.contentLengthName && !header.isNamed Message.cookieHeader

/-- The headers that go over the wire. -/
def headersOf (request : Message) : List Header :=
  request.headers.entries.filter isCarried
    ++ (match cookieLine? request with
      | some line => [⟨Message.cookieHeader, line⟩]
      | none => [])

/-- The body that goes over the wire. -/
def bodyOf (request : Message) : Except BodyFault Stream :=
  if request.isLive then request.takeStream.1
  else request.bytes.map fun data => if data = [] then [] else [.bytes data]

/-- What goes over the wire for a message. -/
def request (verb : Verb) (uri : Uri) (message : Message) : Except BodyFault WireRequest :=
  (bodyOf message).map fun body => { verb, uri, headers := headersOf message, body }

/-- Says whether a byte may stand in the value of a header. -/
def isFieldByte (byte : UInt8) : Bool := (32 ≤ byte && byte ≠ 127) || byte = 9

/-- Says whether a header can go over the wire. -/
def isSendable (header : Header) : Bool :=
  (Verb.ofName? header.name).isSome && (Text.Utf8.encode header.value).all isFieldByte

/-! ### Responses -/

/-- The value of a header, if it is plain text. -/
def plainValue? (value : Text.Bytes) : Option String :=
  if value.all fun byte => (32 ≤ byte && byte < 127) || byte = 9 then
    some (String.ofList (value.map fun byte => Char.ofNat byte.toNat))
  else none

/-- The headers whose values are plain text. -/
def plainHeaders (response : WireResponse) : List Header :=
  response.headers.filterMap fun (name, value) => (plainValue? value).map fun value => ⟨name, value⟩

/-- The cookies that headers set. -/
def cookiesOf (headers : Headers) (uri : Uri) (date : Int) : List Cookie :=
  (headers.getAll setCookieName).filterMap fun field => Cookie.ofSetCookie? field uri date

/-- The message for what comes back from a URI. -/
def message (response : WireResponse) (uri : Uri) (date : Int) : Message :=
  let headers : Headers := ⟨plainHeaders response⟩
  { Message.ofStream response.status headers (headers.contentType?.getD mimeBinary) response.body
      response.length with cookies := cookiesOf headers uri date }

/-! ### Calls -/

/-- Says whether percent codes stand for a text. -/
def isReadable (coded : String) : Bool :=
  match Text.Utf8.decode? (Text.Percent.decode coded) with
  | .ok _ => true
  | .error _ => false

/-- Says whether a header can tell the user of an authority to the other side: the name is a text,
and if there is none the password is one. -/
def tellsUser (authority : Authority) : Bool :=
  isReadable authority.username && (authority.username ≠ "" || isReadable authority.password)

/-- The URI that a request is sent to. A user who is told by a header is left out. -/
def target (uri : Uri) : Uri :=
  { uri with authority := uri.authority.map fun authority =>
      if tellsUser authority then { authority with username := "", password := "" }
      else authority }

/-- Says whether a character of a host of the web can go over the wire. -/
def isHostChar (c : Char) : Bool := !(c ∈ ['"', Char.ofNat 0x60, '\x7b', '\x7d'])

/-- The greatest size of a URI on the wire. -/
def maxTargetSize : Nat := 65534

/-- Says whether a request can be sent to a URI. -/
def isReachable (uri : Uri) : Bool :=
  (uri.host?.getD "").toList.all isHostChar && uri.text.utf8ByteSize ≤ maxTargetSize

/-- What is said of a URI that a request cannot be sent to. -/
def unreachableText (uri : Uri) : String := "builder error for url (" ++ (target uri).text ++ ")"

/-- What is said when a request does not arrive. -/
def lostText (uri : Uri) : String := "error sending request for url (" ++ (target uri).text ++ ")"

/-- The fault of a call that nothing came back for. What ran out of time or was not reached has a
fault of its own, so that no fault of the library tells that of itself here. -/
def callFault (uri : Uri) (timeout : Span) : WireFault → CallFault
  | .unreachable => .connection (lostText uri)
  | .broken => .http { reason := lostText uri }
  | .slow => .timeout timeout

/-- Sends a message to a URI and waits for what comes back. -/
def exchange (carrier : Carrier σ) : Answerer σ := fun _ verb uri request timeout =>
  match Wire.request verb uri request with
  | .error fault => return .error (.body fault)
  | .ok sent =>
    if !sent.headers.all isSendable then return .error (.http { reason := "builder error" })
    else if !isReachable (target uri) then return .error (.http { reason := unreachableText uri })
    else do
      match ← Activity.within timeout (carrier sent) with
      | none => return .error (.timeout timeout)
      | some (.error fault) => return .error (callFault uri timeout fault)
      | some (.ok received) =>
        let world ← Activity.world
        return .ok (message received uri world.date)

end Wire

namespace Endpoint

/-- The score of the endpoint of the web. -/
def wireScore (uri : Uri) : Option (Int × Uri) :=
  if uri.scheme = "http" ∨ uri.scheme = "https" then some (schemeScore, uri) else none

/-- The endpoint that sends requests by a carrier. -/
def wire (key : Nat) (carrier : Carrier σ) : Endpoint σ :=
  { key, name := "http", score := wireScore, delivery := .answers (Wire.exchange carrier) }

end Endpoint

end Switchboard
