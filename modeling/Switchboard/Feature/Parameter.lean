import Switchboard.Feature.Fault
import Switchboard.Signature
/-!
Parameters: what a stage of a feature asks for, and where it is found.

A parameter has a name, a kind, and perhaps a source. When a feature is registered, each of its
parameters becomes an extractor, which says how it is found in every request; a kind that a source
cannot give is refused then, so that no request ever meets it.

Without a source, `verb`, `path`, `uri` and `body` name parts of the request, and any other value is
a segment of the path if the signature captures one of that name, and else comes from the query.

* `Parameter.extractor` says where a parameter is found.
* `Plan.ofParameters` does so for all parameters of a stage, whose names have to differ.
-/

namespace Switchboard

/-- Where a parameter comes from. -/
inductive Source where
  /-- What the name and the kind suggest. -/
  | auto
  | query | path | header | cookie
  deriving DecidableEq, Repr

/-- The kind of a parameter. -/
inductive Kind where
  | text | int | uint | float | bool | textList | intList | cookie
  | document | bytes | stream | verb | uri | context | request | response
  deriving DecidableEq, Repr

/-- The kinds of what is written as text in paths, queries and headers. -/
inductive ValueKind where
  | text | int | uint | float | bool | textList | intList
  deriving DecidableEq, Repr

/-- The kinds in which a body can be had. -/
inductive BodyKind where
  | document | text | bytes | stream
  deriving DecidableEq, Repr

/-- A parameter of a stage. -/
structure Parameter where
  name : String
  source : Source
  kind : Kind
  deriving DecidableEq, Repr

/-- How a parameter is found in a request. -/
inductive Extractor where
  | query (key : String) (kind : ValueKind)
  | path (key : String) (kind : ValueKind)
  | header (key : String) (kind : ValueKind)
  | cookieValue (name : String)
  | cookie (name : String)
  | verb
  | verbText
  | pathText
  | uri
  | uriText
  | body (kind : BodyKind)
  | context
  | request
  | response
  deriving DecidableEq, Repr

/-- A parameter together with how it is found. -/
structure Binding where
  name : String
  extractor : Extractor
  deriving DecidableEq, Repr

/-- The parameters of a stage, in order. -/
structure Plan where
  bindings : List Binding
  deriving DecidableEq, Repr

/-! ### Names -/

/-- The name of a source. -/
def Source.name : Source → String
  | .auto => "Auto"
  | .query => "Query"
  | .path => "Path"
  | .header => "Header"
  | .cookie => "Cookie"

/-- The source of a name. -/
def Source.ofName? (name : String) : Option Source :=
  [Source.auto, .query, .path, .header, .cookie].find? fun source => source.name == name

/-- The name of a kind. -/
def Kind.name : Kind → String
  | .text => "Text"
  | .int => "Int"
  | .uint => "UInt"
  | .float => "Float"
  | .bool => "Bool"
  | .textList => "TextList"
  | .intList => "IntList"
  | .cookie => "Cookie"
  | .document => "Document"
  | .bytes => "Bytes"
  | .stream => "Stream"
  | .verb => "Verb"
  | .uri => "Uri"
  | .context => "Context"
  | .request => "Request"
  | .response => "Response"

/-- All kinds. -/
def Kind.all : List Kind :=
  [.text, .int, .uint, .float, .bool, .textList, .intList, .cookie, .document, .bytes, .stream,
    .verb, .uri, .context, .request, .response]

/-- The kind of a name. -/
def Kind.ofName? (name : String) : Option Kind := Kind.all.find? fun kind => kind.name == name

/-- A kind as one of what is written as text. -/
def Kind.value? : Kind → Option ValueKind
  | .text => some .text
  | .int => some .int
  | .uint => some .uint
  | .float => some .float
  | .bool => some .bool
  | .textList => some .textList
  | .intList => some .intList
  | _ => none

/-- The kind that a kind of value is. -/
def ValueKind.kind : ValueKind → Kind
  | .text => .text
  | .int => .int
  | .uint => .uint
  | .float => .float
  | .bool => .bool
  | .textList => .textList
  | .intList => .intList

/-- A kind as one in which a body can be had. -/
def Kind.body? : Kind → Option BodyKind
  | .document => some .document
  | .text => some .text
  | .bytes => some .bytes
  | .stream => some .stream
  | _ => none

/-- The kind that a kind of body is. -/
def BodyKind.kind : BodyKind → Kind
  | .document => .document
  | .text => .text
  | .bytes => .bytes
  | .stream => .stream

namespace Parameter

/-! ### Finding parameters -/

/-- Refuses a parameter. -/
def refuse (parameter : Parameter) (reason : String) : Except FeatureFault Extractor :=
  .error (.unbindable parameter.name reason)

/-- Where a parameter without a source is found. -/
def automatic (parameter : Parameter) (signature : Signature) : Except FeatureFault Extractor :=
  let name := Text.lower parameter.name
  if name = "verb" then
    match parameter.kind with
    | .verb => .ok .verb
    | .text => .ok .verbText
    | kind => parameter.refuse ("'verb' binds as Verb or Text, not " ++ kind.name)
  else if name = "path" then
    match parameter.kind with
    | .text => .ok .pathText
    | kind => parameter.refuse ("'path' binds as Text, not " ++ kind.name)
  else if name = "uri" then
    match parameter.kind with
    | .uri => .ok .uri
    | .text => .ok .uriText
    | kind => parameter.refuse ("'uri' binds as Uri or Text, not " ++ kind.name)
  else if name = "body" then
    match parameter.kind.body? with
    | some kind => .ok (.body kind)
    | none => parameter.refuse
        ("'body' binds as Document, Text, Bytes or Stream, not " ++ parameter.kind.name)
  else match parameter.kind.value? with
    | some kind =>
      .ok (if signature.captures parameter.name then .path parameter.name kind
        else .query parameter.name kind)
    | none => parameter.refuse ("no automatic source for " ++ parameter.kind.name)

/-- Where a parameter with a source is found. -/
def sourced (parameter : Parameter) (signature : Signature) : Except FeatureFault Extractor :=
  let unfit := parameter.refuse
    (parameter.source.name ++ " values cannot be bound as " ++ parameter.kind.name)
  match parameter.source, parameter.kind.value? with
  | .auto, _ => parameter.automatic signature
  | .query, some kind => .ok (.query parameter.name kind)
  | .header, some kind => .ok (.header parameter.name kind)
  | .path, some kind =>
    if signature.captures parameter.name then .ok (.path parameter.name kind)
    else parameter.refuse
      ("signature '" ++ signature.written ++ "' has no parameter of that name")
  | .query, none | .header, none | .path, none => unfit
  | .cookie, _ => match parameter.kind with
    | .text => .ok (.cookieValue parameter.name)
    | .cookie => .ok (.cookie parameter.name)
    | kind => parameter.refuse ("cookies bind as Text or Cookie, not " ++ kind.name)

/-- Refuses a source for what only comes without one. -/
def unsourced (parameter : Parameter) (extractor : Extractor) : Except FeatureFault Extractor :=
  if parameter.source = .auto then .ok extractor
  else parameter.refuse (parameter.kind.name ++ " can only be bound automatically")

/-- Where a parameter is found. -/
def extractor (parameter : Parameter) (signature : Signature) : Except FeatureFault Extractor :=
  match parameter.kind with
  | .context => parameter.unsourced .context
  | .request => parameter.unsourced .request
  | .response => parameter.unsourced .response
  | _ => parameter.sourced signature

end Parameter

namespace Plan

/-- Where the parameters are found that come after those with the names `seen`. -/
def bindingsOf (signature : Signature) (seen : List String) :
    List Parameter → Except FeatureFault (List Binding)
  | [] => .ok []
  | parameter :: rest =>
    let name := Text.lower parameter.name
    if name ∈ seen then .error (.duplicate parameter.name)
    else match parameter.extractor signature with
      | .error fault => .error fault
      | .ok extractor => match bindingsOf signature (name :: seen) rest with
        | .error fault => .error fault
        | .ok bindings => .ok ({ name := parameter.name, extractor } :: bindings)

/-- The plan for the parameters of a stage. -/
def ofParameters (parameters : List Parameter) (signature : Signature) :
    Except FeatureFault Plan :=
  (bindingsOf signature [] parameters).map Plan.mk

end Plan

end Switchboard
