import Switchboard.Dispatcher
import Switchboard.Report.Basic
import Switchboard.Script.Basic
/-!
Scripted handlers of features.

A scripted handler waits if it is asked to, leaves its mark in the log, and does one thing: answer
with a message, with a report of its arguments, with what stood before it, fail, or break off.

* `Script.handler` is the handler that a document describes.
* `Script.draft` and `Script.service` describe features and services with such handlers.
-/

namespace Switchboard.Script

/-- What scripted parties keep: their marks, and how often each of them was called. -/
structure Trace where
  log : List Json
  calls : List (Nat × Nat)
  deriving Inhabited

/-- The trace of those who have not been called. -/
def Trace.empty : Trace := { log := [], calls := [] }

/-- Leaves a mark in the log. -/
def leaveMark (mark : Json) : Activity Trace Unit :=
  Activity.change fun world =>
    { world with state := { world.state with log := world.state.log ++ [mark] } }

/-- Leaves a mark, if there is one to leave. -/
def leaveMark? : Option Json → Activity Trace Unit
  | some mark => leaveMark mark
  | none => return ()

/-- Waits for a number of milliseconds, if there is one. -/
def pause? : Option Nat → Activity Trace Unit
  | some length => Activity.wait (Span.ofMillis length)
  | none => return ()

/-- How a script breaks off: with its words, with words for all such scripts, or without any. -/
def panicOf (j : Json) : Panic :=
  match j.fieldText? "payload" with
  | some "static" => ⟨some "static panic"⟩
  | some "other" => ⟨none⟩
  | _ => ⟨some (j.textOr "message" "")⟩

/-! ### Parameters -/

/-- A parameter by name, source and kind. Some have a shorter form. -/
def parameter : Json → Described Parameter
  | .list [.text "context"] => .ok { name := "context", source := .auto, kind := .context }
  | .list [.text "request"] => .ok { name := "request", source := .auto, kind := .request }
  | .list [.text "response"] => .ok { name := "response", source := .auto, kind := .response }
  | .list [.text "body", .text kind] => do
    return { name := "body", source := .auto, kind := ← need (Kind.ofName? kind) }
  | .list [.text name, .text source, .text kind] => do
    return { name, source := ← need (Source.ofName? source), kind := ← need (Kind.ofName? kind) }
  | _ => .error .malformed

/-- What is found under a name: by a kind, by the context, or as a description. -/
def lookup (date : Int) (arguments : Arguments) (name : String) : String → Json × Arguments
  | "present" => (.bool (arguments.get? name).isSome, arguments)
  | "debug" =>
    (.text (Text.Quoted.optional Argument.description (arguments.get? name)), arguments)
  | "path_param" => (Json.orNull .text (arguments.context.path.get? name), arguments)
  | "path_params" => (Json.ofTexts (arguments.context.path.getAll name), arguments)
  | "query" => (Json.orNull .text (arguments.context.query? name), arguments)
  | "query_all" => (Json.ofTexts (arguments.context.queryAll name), arguments)
  | word => match Kind.ofName? word with
    | some kind => Report.argument date arguments name kind
    | none => (.null, arguments)

/-- What is found under each of some names. -/
def lookups (date : Int) (arguments : Arguments) : List (String × String) → List Json
  | [] => []
  | (name, what) :: rest =>
    let (value, left) := lookup date arguments name what
    value :: lookups date left rest

/-! ### Handlers -/

/-- Answers with a document about the arguments. -/
def answering (document : Int → Arguments → Json) : Handler Trace := fun arguments => do
  let world ← Activity.world
  return .ok (Message.okDocument (document world.date arguments))

/-- A message, or one without content. -/
def orNothing (message : Option Message) : Message := message.getD (Message.empty .noContent)

/-- Answers with the response of the stage before in a document. -/
def wrapping : Handler Trace := fun arguments =>
  let response := orNothing arguments.takeResponse.1
  match response.document with
  | .ok document => return .ok (Message.okDocument (Report.object
      [("status", Json.nat response.status.code), ("data", document)]))
  | .error fault => return .error (.body fault)

/-- What a handler does once it runs. -/
def deed (parameters : List Parameter) (j : Json) : Described (Handler Trace) := do
  match j.textOr "do" "ok" with
  | "ok" => return fun _ => return .ok Message.ok
  | "args" =>
    let report (date : Int) (arguments : Arguments) := Report.object
      [("count", Json.nat arguments.values.length),
        ("args", .list (Report.arguments date arguments parameters))]
    return answering report
  | "lookup" =>
    let names := (j.field "names").pairs
    return answering fun date arguments => .list (lookups date arguments names)
  | "reply" =>
    let reply ← message (j.field "message")
    return fun _ => return .ok reply
  | "fail" =>
    let fault := featureFault (j.field "fault")
    return fun _ => return .error fault
  | "panic" => return fun _ => Activity.breakOff (panicOf j)
  | "pass_response" =>
    let extra := (j.field "append_headers").pairs
    return fun arguments => return .ok (appendAll extra (orNothing arguments.takeResponse.1))
  | "wrap_response" => return wrapping
  | "echo_request" => return fun arguments => return .ok (orNothing arguments.takeRequest.1)
  | _ => .error .malformed

/-- The handler that a document describes, for a stage with some parameters. -/
def handler (parameters : List Parameter) (j : Json) : Described (Handler Trace) := do
  let act ← deed parameters j
  let mark := j.field? "log"
  let length := if j.isSet "async" then j.fieldNat? "sleep_ms" else none
  return fun arguments => do
    pause? length
    leaveMark? mark
    act arguments

/-! ### Features -/

def stage (j : Json) : Described (StageDraft Trace) := do
  let parameters ← each parameter (j.itemsOf "params")
  let handler ← handler parameters (j.field "handler")
  return { name := j.textOr "name" "", parameters, handler }

def draft (j : Json) : Described (Draft Trace) := do
  let parameters ← each parameter (j.itemsOf "params")
  let handler ← match j.field? "handler" with
    | some described => (handler parameters described).map some
    | none => .ok none
  let prologues ← each stage (j.itemsOf "prologues")
  let epilogues ← each stage (j.itemsOf "epilogues")
  return { verb := j.textOr "verb" "GET", signature := j.textOr "signature" ""
           access := access j, description := j.fieldText? "description"
           parameters, handler, prologues, epilogues }

def service (j : Json) : Described (Service Trace) := do
  let drafts ← each draft (j.itemsOf "features")
  return { name := j.textOr "name" "svc", basePath := j.textOr "base" "", drafts }

/-- A dispatcher with the services that a document describes, and its name. -/
def dispatcher (j : Json) : Described (String × Dispatcher Trace) := do
  let name := j.textOr "name" ""
  let services ← each service (j.itemsOf "services")
  let start := Dispatcher.empty name (dispatchSettings (j.field "config"))
  let register (dispatcher : Dispatcher Trace) (service : Service Trace) :=
    (dispatcher.register service).mapError Fault.feature
  return (name, ← services.foldlM register start)

end Switchboard.Script
