import Switchboard.Feature.Basic
import Switchboard.Json.Field
/-!
Reports: documents that tell what values are.

Bytes are told as text if they are UTF-8 and by hexadecimal digits if not. A moment is told from a
date on if it is within the time for which a cookie may ask to be kept, and from the start of 1970
if not.

* `Report.message` tells of a message, with its body as bytes.
* `Report.argument` tells what a handler finds for a name and a kind.
-/

namespace Switchboard.Report

open Json (orNull ofTexts ofPair)

/-- A document with fields. -/
def object (fields : List (String × Json)) : Json := Json.ofFields fields

/-! ### Bytes, numbers and moments -/

/-- The hexadecimal digits of bytes. -/
def hexText (bytes : Text.Bytes) : String :=
  String.ofList (bytes.flatMap fun byte =>
    [Text.hexDigit (byte.toNat / 16), Text.hexDigit (byte.toNat % 16)])

def bytes (bytes : Text.Bytes) : Json :=
  match Text.Utf8.decode? bytes with
  | .ok text => object [("text", .text text)]
  | .error _ => object [("hex", .text (hexText bytes))]

/-- The bits of a double as sixteen hexadecimal digits; there is one way not to be a number. -/
def double (x : Number.Double) : Json :=
  if x.isNaN then .text "7ff8000000000000"
  else
    let digits := Nat.toDigits 16 x.bits.toNat
    .text (String.ofList (List.replicate (16 - digits.length) '0' ++ digits))

/-- How far from a date a moment is told from that date. -/
def horizon : Int := 401 * 24 * 60 * 60

def moment (date : Int) (moment : Int) : Json :=
  if date ≤ moment ∧ moment ≤ date + horizon then
    object [("in_seconds", Json.int (moment - date))]
  else object [("unix", Json.int moment)]

def millis (span : Span) : Json := Json.nat span.millis

def uri (uri : Uri) : Json := .text uri.text

def verb (verb : Verb) : Json := .text verb.name

/-! ### Faults -/

/-- A name and a wording. -/
def fault (name message : String) : Json :=
  object [("error", .text name), ("message", .text message)]

def bodyFault (f : BodyFault) : Json := fault f.name f.message

/-! ### Messages -/

def headers (headers : Headers) : Json :=
  .list (headers.entries.map fun header => ofPair (header.name, header.value))

def cookie (date : Int) (cookie : Cookie) : Json :=
  object [("name", .text cookie.name), ("value", .text cookie.value),
    ("uri", orNull uri cookie.scope), ("expires", orNull (moment date) cookie.expires),
    ("secure", .bool cookie.secure), ("http_only", .bool cookie.httpOnly)]

def cookies (date : Int) (cookies : List Cookie) : Json := .list (cookies.map (cookie date))

/-- The bytes of a message, or the name of what keeps them. -/
def body (message : Message) : Json :=
  match message.bytes with
  | .ok data => bytes data
  | .error fault => object [("error", .text fault.name)]

def message (date : Int) (message : Message) : Json :=
  object [("status", Json.nat message.status.code), ("headers", headers message.headers),
    ("cookies", cookies date message.cookies),
    ("content_length", orNull Json.nat message.contentLength?), ("body", body message)]

/-- The pieces of a stream that come without waiting, or that it has to be waited for. -/
def stream (events : Stream) : Json :=
  match Stream.readNow events with
  | none => object [("error", .text "pending")]
  | some pieces => .list (pieces.map fun
    | .ok data => bytes data
    | .error reason => fault (BodyFault.stream reason).name reason)

/-! ### Features -/

def access (access : Access) : Json := .text access.text

def info (info : FeatureInfo) : Json :=
  object [("service", .text info.service), ("verb", .text info.verb),
    ("signature", .text info.signature), ("access", access info.access),
    ("description", orNull .text info.description), ("hits", Json.nat info.hits.toNat)]

def context (context : Context) : Json :=
  object [("service", .text context.service), ("signature", .text context.signature),
    ("verb", verb context.verb), ("uri", uri context.uri), ("access", access context.access),
    ("suffixes", ofTexts context.suffixes), ("query", .list (context.queryPairs.map ofPair))]

/-- A document as its text. -/
def document (document : Json) : Json := object [("document", .text document.write)]

/-- What a handler finds for a name and a kind, and its arguments afterwards. -/
def argument (date : Int) (arguments : Arguments) (name : String) (kind : Kind) :
    Json × Arguments :=
  match kind with
  | .text => (orNull .text (arguments.text? name), arguments)
  | .int => (orNull Json.int (arguments.int? name), arguments)
  | .uint => (orNull Json.nat (arguments.uint? name), arguments)
  | .float => (orNull double (arguments.float? name), arguments)
  | .bool => (orNull .bool (arguments.bool? name), arguments)
  | .textList => (ofTexts (arguments.texts name), arguments)
  | .intList => (.list ((arguments.ints name).map Json.int), arguments)
  | .cookie => (orNull (cookie date) (arguments.cookie? name), arguments)
  | .document => (orNull document (arguments.document? name), arguments)
  | .bytes => (orNull bytes (arguments.bytes? name), arguments)
  | .stream =>
    let (events, left) := arguments.takeStream name
    (orNull stream events, left)
  | .verb => (orNull verb (arguments.verb? name), arguments)
  | .uri => (orNull uri (arguments.uri? name), arguments)
  | .context => (context arguments.context, arguments)
  | .request =>
    let (copy, left) := arguments.takeRequest
    (orNull (message date) copy, left)
  | .response =>
    let (previous, left) := arguments.takeResponse
    (orNull (message date) previous, left)

/-- What a handler finds for its parameters, with their names. -/
def arguments (date : Int) (args : Arguments) : List Parameter → List Json
  | [] => []
  | parameter :: rest =>
    let (value, left) := argument date args parameter.name parameter.kind
    .list [.text parameter.name, value] :: arguments date left rest

end Switchboard.Report
