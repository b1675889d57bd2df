import Switchboard.Cookie.Basic
import Switchboard.Headers
import Switchboard.Message.Body
import Switchboard.Status
/-!
Messages: what is sent to an endpoint and what comes back.

A message has a status, headers, cookies and a body. The empty document is kept as no bytes at all,
so that it never shows as a word.

* `Message.askBytes`, `Message.askDocument` and `Message.askString` read the body in three ways, and
  return the message with what its body keeps then. `Message.bytes`, `Message.document` and
  `Message.string` are what is read.
* `Message.takeStream` hands out the body as a stream.
* `Message.memorize` reads a stream into memory.
* `Message.copy` copies a message, if its body is in memory.
-/

namespace Switchboard

/-- A request or a response. -/
structure Message where
  status : Status
  headers : Headers
  cookies : List Cookie
  body : Body
  deriving Repr, Inhabited

namespace Message

/-! ### Making messages -/

def mimeJson : String := "application/json"

def mimeText : String := "text/plain; charset=utf-8"

/-- A message without a body. -/
def empty (status : Status) : Message :=
  { status, headers := Headers.empty, cookies := [], body := .bytes [] }

/-- A message with a body of a type, unless the headers name one. -/
def withBody (status : Status) (headers : Headers) (contentType : String) (body : Body) : Message :=
  let headers := if headers.contains Headers.contentTypeName then headers
    else headers.insert Headers.contentTypeName contentType
  { status, headers, cookies := [], body }

/-- A message with bytes. -/
def ofBytes (status : Status) (headers : Headers) (contentType : String) (data : Text.Bytes) :
    Message :=
  withBody status headers contentType (.bytes data)

/-- A message with text. -/
def ofText (status : Status) (headers : Headers) (contentType text : String) : Message :=
  ofBytes status headers contentType (Text.Utf8.encode text)

/-- A message with a document. -/
def ofDocument (status : Status) (headers : Headers) (value : Json) : Message :=
  match value with
  | .null => ofBytes status headers mimeText []
  | value => withBody status headers mimeJson (.document value)

/-- A message with a stream, of which the length may be announced. -/
def ofStream (status : Status) (headers : Headers) (contentType : String) (events : Stream)
    (length : Option Nat) : Message :=
  withBody status headers contentType (.stream events length)

/-- A success without a body. -/
def ok : Message := empty .ok

/-- A success with a document. -/
def okDocument (value : Json) : Message := ofDocument .ok Headers.empty value

/-- A success with text. -/
def okText (text : String) : Message := ofText .ok Headers.empty mimeText text

/-- A message without a body that names another place. -/
def redirect (status : Status) (location : String) : Message :=
  let message := empty status
  { message with headers := message.headers.insert "Location" location }

/-- A message that explains a status. -/
def explain (status : Status) (reason : String) : Message :=
  ofDocument status Headers.empty (Json.ofFields
    [("status", Json.nat status.code), ("title", .text status.reason), ("message", .text reason)])

/-- A message that explains a status has it. -/
theorem status_explain (status : Status) (reason : String) :
    (explain status reason).status = status := by
  unfold explain ofDocument
  split <;> rfl

/-- The answer to a verb that is not among the allowed ones. -/
def methodNotAllowed (allowed : List String) (reason : String) : Message :=
  let message := explain .methodNotAllowed reason
  { message with headers := message.headers.insert "Allow" (Text.join ", " allowed) }

/-! ### Reading messages -/

def isSuccess (message : Message) : Bool := message.status.isSuccess

def isClosed (message : Message) : Bool :=
  match message.body with
  | .closed => true
  | _ => false

/-- Says whether the body is a stream that has not been read. -/
def isLive (message : Message) : Bool :=
  match message.body with
  | .stream _ _ => true
  | _ => false

/-- Says whether the body is in memory. -/
def isCloneable (message : Message) : Bool :=
  match message.body with
  | .documentWith _ _ | .bytesWith _ _ => true
  | _ => false

/-- The length of the body: the one that a header announces, or else the known one. -/
def contentLength? (message : Message) : Option Nat :=
  match message.headers.contentLength? with
  | some length => some length
  | none => message.body.length?

/-- The body as bytes, and the message afterwards. -/
def askBytes (message : Message) : Except BodyFault Text.Bytes × Message :=
  let asked := message.body.askBytes
  (asked.1, { message with body := asked.2 })

/-- The body as a document, and the message afterwards. -/
def askDocument (message : Message) : Except BodyFault Json × Message :=
  let asked := message.body.askDocument
  (asked.1, { message with body := asked.2 })

/-- Bytes as text. -/
def readText (data : Text.Bytes) : Except BodyFault String :=
  (Text.Utf8.decode? data).mapError fun fault => .invalid fault.message

/-- The body as text, and the message afterwards. -/
def askString (message : Message) : Except BodyFault String × Message :=
  let asked := message.askBytes
  (asked.1.bind readText, asked.2)

/-- The body as bytes. -/
def bytes (message : Message) : Except BodyFault Text.Bytes := message.askBytes.1

/-- The body as a document. -/
def document (message : Message) : Except BodyFault Json := message.askDocument.1

/-- The body as text. -/
def string (message : Message) : Except BodyFault String := message.askString.1

/-- A description of a message. -/
def text (message : Message) : String :=
  "Message \x7b status: Status(" ++ Text.decimal message.status.code ++ "), headers: "
    ++ message.headers.text ++ ", cookies: " ++ Text.decimal message.cookies.length
    ++ ", body: \"" ++ message.body.kind ++ "\" \x7d"

/-! ### Changing messages -/

/-- Releases the body. -/
def close (message : Message) : Message := { message with body := .closed }

/-- Adds a header. -/
def appendHeader (message : Message) (name value : String) : Message :=
  { message with headers := message.headers.append name value }

/-- Gives a header one value. -/
def setHeader (message : Message) (name value : String) : Message :=
  { message with headers := message.headers.insert name value }

/-- Adds a cookie. -/
def addCookie (message : Message) (cookie : Cookie) : Message :=
  { message with cookies := message.cookies ++ [cookie] }

/-- Hands out the body as a stream. A live stream is gone afterwards; any other body stays. -/
def takeStream (message : Message) : Except BodyFault Stream × Message :=
  match message.body with
  | .stream events _ => (.ok events, { message with body := .consumed })
  | _ =>
    let asked := message.askBytes
    (asked.1.map fun data => [.bytes data], asked.2)

/-- A copy of a message whose body is in memory, with all that the body keeps. -/
def copy (message : Message) : Except BodyFault Message :=
  match message.body with
  | .documentWith _ _ | .bytesWith _ _ => .ok message
  | .closed => .error .closed
  | .stream _ _ | .consumed => .error .notCloneable

/-- Reads a stream into memory, with the time that it took. Bodies in memory stay as they are; after
a failure there is no body. -/
def memorize (message : Message) (limit : Nat) (timeout : Span) :
    Except BodyFault Unit × Message × Span :=
  match message.body with
  | .documentWith _ _ | .bytesWith _ _ => (.ok (), message, Span.zero)
  | .consumed => (.error .consumed, message, Span.zero)
  | .closed => (.error .closed, message, Span.zero)
  | .stream events length =>
    let emptied := { message with body := .consumed }
    if length.any (limit < ·) then (.error (.overflow limit), emptied, Span.zero)
    else match Stream.drain limit timeout events with
      | (.error fault, spent) => (.error fault, emptied, spent)
      | (.ok data, spent) =>
        let headers := if message.headers.contains Headers.contentLengthName then message.headers
          else message.headers.insert Headers.contentLengthName (Text.decimal data.length)
        (.ok (), { message with headers, body := .bytes data }, spent)

/-- The longest time that can be asked for. -/
def longestTimeout : Span := ⟨Number.maxWord * 1000000000 + 999999999⟩

/-- Reads the body into memory without a limit. -/
def readBytes (message : Message) : Except BodyFault Text.Bytes × Message :=
  match message.memorize Number.maxWord longestTimeout with
  | (.ok (), message, _) => message.askBytes
  | (.error fault, message, _) => (.error fault, message)

end Message

end Switchboard
