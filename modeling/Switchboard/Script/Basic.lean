import Switchboard.Feature.Access
import Switchboard.Feature.Fault
import Switchboard.Json.Field
import Switchboard.Plug.Fault
import Switchboard.Settings.Limits
import Switchboard.Uri.Parser
import Switchboard.Verb
/-!
Scripts: values that are described by documents.

What a document leaves out has a standard value. A URI that cannot be read is a fault, and so is a
description that has no meaning.

* `Script.message` makes the message that a document describes.
* `Script.callSettings` and `Script.dispatchSettings` do the same for settings.
-/

namespace Switchboard.Script

/-- Why a description describes nothing. -/
inductive Fault where
  | malformed
  | uri (fault : UriFault)
  /-- The verb is no token. -/
  | verb
  | call (fault : CallFault)
  | feature (fault : FeatureFault)
  deriving DecidableEq, Repr

/-- A described value, or why there is none. -/
abbrev Described := Except Fault

variable {α β : Type}

/-- A value that has to be there. -/
def need : Option α → Described α
  | some value => .ok value
  | none => .error .malformed

/-- What every item of a list describes; the first fault counts. -/
def each (describe : α → Described β) : List α → Described (List β)
  | [] => .ok []
  | item :: rest => do
    let value ← describe item
    let values ← each describe rest
    return value :: values

/-! ### Parts of messages -/

/-- The bytes that pairs of hexadecimal digits stand for. -/
def hexBytes : List Char → Text.Bytes
  | high :: low :: rest =>
    match Text.hexValue? high, Text.hexValue? low with
    | some h, some l => UInt8.ofNat (h * 16 + l) :: hexBytes rest
    | _, _ => []
  | _ => []

/-- Bytes: a text, hexadecimal digits, or a text that is repeated. -/
def bytes (j : Json) : Text.Bytes :=
  match j with
  | .text s => Text.Utf8.encode s
  | j => match j.fieldText? "hex", j.fieldText? "repeat" with
    | some hex, _ => hexBytes hex.toList
    | none, some piece => (List.replicate (j.natOr "times" 0) (Text.Utf8.encode piece)).flatten
    | none, none => []

def uri (text : String) : Described Uri := (Uri.parse text).mapError .uri

/-- The URI of a field. -/
def uriOf (j : Json) (key : String) : Described Uri := do uri (← need (j.fieldText? key))

/-- The verb of a request. -/
def verb (j : Json) : Described Verb :=
  match Verb.ofName? (j.textOr "verb" "GET") with
  | some verb => .ok verb
  | none => .error .verb

/-- The access of a caller or for a feature. -/
def access (j : Json) : Access :=
  let word := j.textOr "access" "public"
  if word = Access.internal.text then .internal else if word = Access.owner.text then .owner
  else .anyone

/-- Headers in the order in which they stand. -/
def headers (j : Json) : Headers := Headers.ofPairs j.pairs

def cookie (j : Json) : Described Cookie := do
  let scope ← match j.fieldText? "uri" with
    | some text => (uri text).map some
    | none => .ok none
  return { name := j.textOr "name" "", value := j.textOr "value" "", scope
           expires := (j.field? "expires").bind Json.int?, secure := j.isSet "secure"
           httpOnly := j.isSet "http_only" }

/-- One thing that happens to a stream. -/
def event (j : Json) : StreamEvent :=
  match j.fieldText? "error", j.fieldNat? "delay_ms", j.field? "stall" with
  | some reason, _, _ => .failure reason
  | none, some length, _ => .pause (Span.ofMillis length)
  | none, none, some _ => .stall
  | none, none, none => .bytes (bytes j)

def stream (j : Json) : Stream := (j.itemsOf "chunks").map event

/-! ### Messages -/

/-- The message of a name, before anything is added to it. -/
def bareMessage (j : Json) : Described Message :=
  let doc := j.field "doc"
  let text := j.textOr "text" ""
  let reason := j.textOr "message" ""
  let location := j.textOr "location" ""
  let contentType := j.textOr "content_type" "text/plain"
  let data := bytes (j.field "bytes")
  let length := j.fieldNat? "length"
  let status : Status := ⟨j.natOr "status" 200⟩
  let own := headers (j.field "headers")
  match j.textOr "make" "ok" with
  | "ok" => .ok Message.ok
  | "empty" => .ok (Message.empty status)
  | "ok_json" => .ok (Message.okDocument doc)
  | "ok_text" => .ok (Message.okText text)
  | "ok_bytes" => .ok (Message.ofBytes .ok Headers.empty contentType data)
  | "ok_stream" => .ok (Message.ofStream .ok Headers.empty contentType (stream j) length)
  | "created" => .ok (Message.ofDocument .created Headers.empty doc)
  | "no_content" => .ok (Message.empty .noContent)
  | "redirect" => .ok (Message.redirect .found location)
  | "redirect_permanent" => .ok (Message.redirect .movedPermanently location)
  | "bad_request" => .ok (Message.explain .badRequest reason)
  | "forbidden" => .ok (Message.explain .forbidden reason)
  | "not_found" => .ok (Message.explain .notFound reason)
  | "internal_error" => .ok (Message.explain .internalError reason)
  | "method_not_allowed" =>
    .ok (Message.methodNotAllowed (j.field "allowed").texts reason)
  | "error" => .ok (Message.explain status reason)
  | "document" => .ok (Message.ofDocument status own doc)
  | "bytes" => .ok (Message.ofBytes status own contentType data)
  | "text" => .ok (Message.ofText status own contentType text)
  | "stream" => .ok (Message.ofStream status own contentType (stream j) length)
  | _ => .error .malformed

/-- Adds headers to a message. -/
def appendAll (pairs : List (String × String)) (message : Message) : Message :=
  pairs.foldl (fun message pair => message.appendHeader pair.1 pair.2) message

/-- The message that a document describes; null describes a success without a body. -/
def message (j : Json) : Described Message := do
  let bare ← bareMessage j
  let cookies ← each cookie (j.itemsOf "cookies")
  let whole := cookies.foldl Message.addCookie
    (appendAll (j.field "append_headers").pairs bare)
  return if j.isSet "closed" then whole.close else whole

/-! ### Faults -/

/-- The fault of a body that has a name. -/
def bodyFault (j : Json) : BodyFault :=
  let reason := j.textOr "message" ""
  match j.textOr "kind" "" with
  | "AlreadyClosed" => .closed
  | "BodyConsumed" => .consumed
  | "NotMemorized" => .unread
  | "NotCloneable" => .notCloneable
  | "BufferOverflow" => .overflow (j.natOr "limit" 0)
  | "Timeout" => .timeout ⟨j.natOr "nanos" 0⟩
  | "InvalidBody" => .invalid reason
  | "Json" => match Json.read (Text.Utf8.encode reason) with
    | .error fault => .document fault
    | .ok _ => .invalid reason
  | _ => .stream reason

/-- The fault of a call that has a name. -/
def callFault (j : Json) : CallFault :=
  let reason := j.textOr "message" ""
  match j.textOr "kind" "" with
  | "Timeout" => .timeout ⟨j.natOr "nanos" 0⟩
  | "Connection" => .connection reason
  | "Transport" => .transport reason
  | "Response" => .response ⟨j.natOr "status" 200⟩ reason
  | "InvalidUri" => .invalidUri reason
  | "Handler" => .handler reason
  | "UrlParse" => match Uri.parse reason with
    | .error fault => .uri fault
    | .ok _ => .invalidUri reason
  | "Core" => .body (bodyFault (j.field "core"))
  | _ => .http { reason }

/-- The fault of a feature that has a name. -/
def featureFault (j : Json) : FeatureFault :=
  let reason := j.textOr "message" ""
  let parameter := j.textOr "parameter" ""
  match j.textOr "kind" "Handler" with
  | "InvalidSignature" => .invalidSignature parameter reason
  | "InvalidVerb" => .invalidVerb reason
  | "BindingType" => .unbindable parameter reason
  | "DuplicateParameter" => .duplicate reason
  | "MissingHandler" => .missingHandler reason
  | "BadArgument" => .badArgument parameter reason
  | "Closed" => .body .closed
  | "Core" => .body (bodyFault (j.field "core"))
  | _ => .handler reason

/-! ### Settings -/

def redirectPolicy (word : String) : Settings.RedirectPolicy :=
  if word = "all" then .all else .sameOrigin

/-- A number of milliseconds, or another span. -/
def spanOr (j : Json) (key : String) (fallback : Span) : Span :=
  match j.fieldNat? key with
  | some n => Span.ofMillis n
  | none => fallback

def callSettings (j : Json) : Settings.CallSettings :=
  let base := Settings.CallSettings.standard
  { timeout := spanOr j "timeout_ms" base.timeout
    connectTimeout := spanOr j "connect_timeout_ms" base.connectTimeout
    maxRedirects := j.natOr "max_auto_redirects" base.maxRedirects
    maxBytes := j.natOr "max_memorize_bytes" base.maxBytes
    userAgent := j.textOr "user_agent" base.userAgent
    redirectPolicy := redirectPolicy (j.textOr "redirect_headers" "same_origin") }

def dispatchSettings (j : Json) : Settings.DispatchSettings :=
  let base := Settings.DispatchSettings.standard
  { maxBytes := j.natOr "max_request_bytes" base.maxBytes
    bodyTimeout := spanOr j "body_timeout_ms" base.bodyTimeout }

end Switchboard.Script
