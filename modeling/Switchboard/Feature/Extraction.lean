import Switchboard.Feature.Argument
/-!
Finding arguments in a request.

The extractors of a plan are applied in order, and the first fault ends it. What an extractor takes
away is the response of the stage before, or the stream of a body that is not in memory; a request
whose body is in memory stays the same, though its body may keep more than before.

* `ValueKind.read` reads values that are written as text.
* `Extractor.extract` finds one argument, `Plan.extract` those of a stage.
-/

namespace Switchboard

/-- What the arguments of a stage are taken from. -/
structure Pending where
  request : Message
  /-- The response of the stage before, until it is taken. -/
  previous : Option Message
  deriving Inhabited

/-! ### Values -/

namespace ValueKind

/-- Reads an integer of 64 bits. -/
def readInt (name value : String) : Except FeatureFault Int :=
  (Number.readInt64 (Text.trim value)).mapError fun fault =>
    .badArgument name ("'" ++ value ++ "': " ++ fault.message)

/-- Reads a natural number of 64 bits. -/
def readUInt (name value : String) : Except FeatureFault Nat :=
  (Number.readWord (Text.trim value)).mapError fun fault => .badArgument name fault.message

/-- Reads a double. -/
def readFloat (name value : String) : Except FeatureFault Number.Double :=
  (Number.readReal (Text.trim value)).mapError fun fault => .badArgument name fault.message

/-- Reads a truth value, for which there are four words each. -/
def readBool (name value : String) : Except FeatureFault Bool :=
  let word := Text.lower (Text.trim value)
  if word ∈ ["true", "1", "yes", "on"] then .ok true
  else if word ∈ ["false", "0", "no", "off"] then .ok false
  else .error (.badArgument name ("'" ++ value ++ "' is not a boolean"))

/-- Reads the first value, if there is one. -/
def readFirst (read : String → Except FeatureFault α) :
    List String → Except FeatureFault (Option α)
  | [] => .ok none
  | value :: _ => (read value).map some

/-- Reads all values. -/
def readAll (read : String → Except FeatureFault α) : List String → Except FeatureFault (List α)
  | [] => .ok []
  | value :: rest => match read value with
    | .error fault => .error fault
    | .ok item => (readAll read rest).map (item :: ·)

/-- The argument of a kind for the values of a name. -/
def read (kind : ValueKind) (name : String) (values : List String) :
    Except FeatureFault Argument :=
  match kind with
  | .text => .ok (.text values.head?)
  | .int => (readFirst (readInt name) values).map .int
  | .uint => (readFirst (readUInt name) values).map .uint
  | .float => (readFirst (readFloat name) values).map .float
  | .bool => (readFirst (readBool name) values).map .bool
  | .textList => .ok (.textList values)
  | .intList => (readAll (readInt name) values).map .intList

end ValueKind

/-! ### Cookies -/

namespace Message

/-- The name of the header by which a request sends cookies. -/
def cookieHeader : String := "Cookie"

/-- A cookie as it is written in a request. -/
def readCookiePair (text : String) : Option Cookie := do
  let (name, value) ← Text.splitOnce '=' (Text.trim text)
  return Cookie.ofPair (Text.trim name) (Text.trim value)

/-- The cookies that are written in the headers of a request. -/
def writtenCookies (message : Message) : List Cookie :=
  (message.headers.getAll cookieHeader).flatMap fun value =>
    (Text.split ';' value).filterMap readCookiePair

/-- The cookie of a name in a request: one of its own, or else one written in its headers. -/
def cookie? (message : Message) (name : String) : Option Cookie :=
  match message.cookies.find? fun cookie => cookie.name == name with
  | some cookie => some cookie
  | none => message.writtenCookies.find? fun cookie => cookie.name == name

end Message

/-! ### Bodies -/

namespace BodyKind

/-- The argument of a kind for the body of a request, and the request afterwards. -/
def extract (kind : BodyKind) (name : String) (request : Message) :
    Except FeatureFault Argument × Message :=
  let bad (fault : BodyFault) : FeatureFault := .badArgument name fault.message
  match kind with
  | .document =>
    let (result, request) := request.askDocument
    ((result.mapError bad).map .document, request)
  | .text =>
    let (result, request) := request.askString
    ((result.mapError bad).map fun text => .text (some text), request)
  | .bytes =>
    let (result, request) := request.askBytes
    ((result.mapError .body).map .bytes, request)
  | .stream =>
    let (result, request) := request.takeStream
    ((result.mapError .body).map fun events => .stream (some events), request)

end BodyKind

/-! ### Plans -/

namespace Extractor

/-- Finds the argument for a parameter of a name. -/
def extract (extractor : Extractor) (name : String) (context : Context) (pending : Pending) :
    Except FeatureFault Argument × Pending :=
  match extractor with
  | .query key kind => (kind.read name (context.queryAll key), pending)
  | .path key kind => (kind.read name (context.path.getAll key), pending)
  | .header key kind => (kind.read name (pending.request.headers.getAll key), pending)
  | .cookieValue key => (.ok (.text ((pending.request.cookie? key).map Cookie.value)), pending)
  | .cookie key => (.ok (.cookie (pending.request.cookie? key)), pending)
  | .verb => (.ok (.verb context.verb), pending)
  | .verbText => (.ok (.text (some context.verb.name)), pending)
  | .pathText => (.ok (.text (some context.uri.pathText)), pending)
  | .uri => (.ok (.uri context.uri), pending)
  | .uriText => (.ok (.text (some context.uri.text)), pending)
  | .body kind =>
    let (result, afterwards) := kind.extract name pending.request
    (result, { pending with request := afterwards })
  | .context => (.ok (.context context), pending)
  | .request =>
    ((pending.request.copy.mapError .body).map fun copy => .request (some copy), pending)
  | .response => (.ok (.response pending.previous), { pending with previous := none })

end Extractor

namespace Plan

/-- Finds the arguments for a list of bindings. -/
def extractAll (context : Context) : List Binding → Pending →
    Except FeatureFault (List (String × Argument)) × Pending
  | [], pending => (.ok [], pending)
  | binding :: rest, pending =>
    match binding.extractor.extract binding.name context pending with
    | (.error fault, pending) => (.error fault, pending)
    | (.ok argument, pending) =>
      match extractAll context rest pending with
      | (.error fault, pending) => (.error fault, pending)
      | (.ok arguments, pending) => (.ok ((binding.name, argument) :: arguments), pending)

/-- Finds the arguments of a stage, and what is left to take afterwards. -/
def extract (plan : Plan) (context : Context) (pending : Pending) :
    Except FeatureFault Arguments × Pending :=
  match extractAll context plan.bindings pending with
  | (.error fault, pending) => (.error fault, pending)
  | (.ok values, pending) => (.ok { context, values }, pending)

end Plan

end Switchboard
