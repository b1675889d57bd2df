import Switchboard.Cookie.Public
import Switchboard.Endpoint.SchemeSwap
import Switchboard.Endpoint.Wire
/-!
Exchanges: how a call is made.

A call goes to the endpoint that the registry finds for the URI of the plug. What leads from request
to response is a chain of hops. In each hop the request is dressed by the plug, seen by the handlers
before it, answered by the endpoint within the shorter of two times, and the cookies of the answer
are stored. A redirect that is to be followed begins another hop with a copy of the request that the
hop began with; any other response is seen by the handlers after it, in the last hop only.

Whatever goes wrong becomes a response with a status of its own, and ends the call there. An endpoint
is cut off when its time is up, but only where it waits.

* `Exchange.hop` is one hop, `Exchange.runWithin` the chain of them.
* `Exchange.invokeWithin` makes a call and reads the body of the response into memory.
* `Exchange.call` makes a call that has to succeed.
-/

namespace Switchboard

/-- What the calls of a family of plugs have in common. -/
structure Exchange (σ : Type) where
  registry : Registry σ
  /-- The jar for plugs without one when there is no ambient one. -/
  jar : JarName
  settings : Settings.CallSettings

/-- How a hop ends. -/
inductive HopEnd where
  /-- With a response that ends the call. -/
  | stopped (response : Message)
  /-- With a response of an endpoint for a URI. -/
  | answered (uri : Uri) (response : Message)
  deriving Inhabited

variable {σ : Type}

/-! ### Failures -/

namespace Failure

/-- What is said of a handler or an endpoint that breaks off without words. -/
def silentPanic : String := "handler panicked"

/-- What is said of one that breaks off. -/
def words (panic : Panic) : String := panic.words.getD silentPanic

/-- The response when nobody serves a URI. -/
def noEndpoint (uri : Uri) : Message :=
  Message.explain .noEndpoint ("no endpoint found for " ++ uri.text)

/-- The response when a handler keeps the request. -/
def requestMissing : Message :=
  Message.explain .requestMissing "pre-handler returned no request"

/-- The response when a handler keeps the response. -/
def responseMissing : Message :=
  Message.explain .responseMissing "post-handler returned no response"

/-- The response when a handler before the endpoint, or the endpoint, breaks off. -/
def requestPanic (panic : Panic) : Message := Message.explain .requestFailed (words panic)

/-- The response when a handler after the endpoint breaks off. -/
def responsePanic (panic : Panic) : Message := Message.explain .responseFailed (words panic)

/-- The response when the endpoint does not answer in time. -/
def late (uri : Uri) (limit : Span) : Message :=
  Message.explain .requestTimeout
    ("request to " ++ uri.text ++ " timed out after " ++ limit.text)

/-- The response when the endpoint has a fault in the place of an answer. -/
def unanswered (fault : CallFault) : Message :=
  Message.explain (if fault.isTimeout then .requestTimeout else .requestFailed) fault.message

/-- The response when the body of a response cannot be read. -/
def unreadable (fault : BodyFault) : Message :=
  Message.explain (if fault.isTimeout then .transferTimeout else .responseFailed) fault.message

end Failure

namespace Plug

/-- The cookies of a response to a plug as they are stored. Those set at a local URI belong below
the URI of the plug, if that is not local. -/
def receivedCookies (plug : Plug σ) (served : Uri) (response : Message) : List Cookie :=
  if !plug.uri.isLocal && served.isLocal then
    response.cookies.map fun cookie => cookie.toPublic served plug.uri
  else response.cookies

end Plug

namespace Exchange

/-! ### Environments of plugs -/

/-- The endpoints that are there without anyone adding them: the one of the web and two that lead to
it. Their keys are the first three numbers. -/
def standardRegistry (carrier : Carrier σ) : Registry σ :=
  ⟨[Endpoint.wire 0 carrier, Endpoint.schemeSwap 1 "ext-http" "http",
    Endpoint.schemeSwap 2 "ext-https" "https"]⟩

/-- A plug with the settings of an exchange. -/
def plug (exchange : Exchange σ) (uri : Uri) : Plug σ := Plug.of uri exchange.settings

/-- The jar of a plug: its own, or else the ambient one, or else that of the exchange. -/
def jarOf (exchange : Exchange σ) (plug : Plug σ) : Activity σ JarName :=
  match plug.jar with
  | some jar => return jar
  | none => do
    let ambient ← Activity.ambient
    return ambient.getD exchange.jar

/-! ### Hops -/

/-- Has the handlers before the endpoint see a request. Returns the response that ends the call, or
the request that the last handler returned. -/
def runBefore (verb : Verb) (uri served : Uri) :
    List (MessageHandler σ) → Message → Activity σ (Except Message Message)
  | [], request => return .ok request
  | handler :: rest, request => do
    match ← Activity.attempt (handler verb uri served request) with
    | .error panic => return .error (Failure.requestPanic panic)
    | .ok none => return .error Failure.requestMissing
    | .ok (some request) =>
      if request.status = .ok then runBefore verb uri served rest request
      else return .error request

/-- Has the handlers after the endpoint see a response. -/
def runAfter (verb : Verb) (uri served : Uri) :
    List (MessageHandler σ) → Message → Activity σ Message
  | [], response => return response
  | handler :: rest, response => do
    match ← Activity.attempt (handler verb uri served response) with
    | .error panic => return Failure.responsePanic panic
    | .ok none => return Failure.responseMissing
    | .ok (some response) => runAfter verb uri served rest response

/-- Has an endpoint answer within some time. Returns the response that ends the call, or the one of
the endpoint. -/
def answer (exchange : Exchange σ) (found : Match σ) (plug : Plug σ) (verb : Verb)
    (request : Message) (limit : Span) : Activity σ (Except Message Message) := do
  let delivery := exchange.registry.deliver found plug verb request limit
  match ← Activity.within limit (Activity.attempt delivery) with
  | none => return .error (Failure.late plug.uri limit)
  | some (.error panic) => return .error (Failure.requestPanic panic)
  | some (.ok (.error fault)) => return .error (Failure.unanswered fault)
  | some (.ok (.ok response)) => return .ok response

/-- Stores the cookies of a response. -/
def keepCookies (jar : JarName) (plug : Plug σ) (served : Uri) (response : Message) :
    Activity σ Unit :=
  if response.cookies = [] then return ()
  else Activity.storeCookies jar (plug.receivedCookies served response) plug.uri

/-- Makes one hop. -/
def hop (exchange : Exchange σ) (plug : Plug σ) (verb : Verb) (request : Message)
    (timeout : Span) : Activity σ HopEnd :=
  match exchange.registry.find plug.uri with
  | none => return .stopped (Failure.noEndpoint plug.uri)
  | some found => do
    let jar ← exchange.jarOf plug
    let cookies ← Activity.fetchCookies jar plug.uri
    match ← runBefore verb plug.uri found.uri plug.before (plug.dress cookies request) with
    | .error response => return .stopped response
    | .ok request =>
      match ← exchange.answer found plug verb request (min plug.timeout timeout) with
      | .error response => return .stopped response
      | .ok response =>
        keepCookies jar plug found.uri response
        return .answered found.uri response

/-! ### Chains -/

/-- Why a message is no request, if it is none. -/
def refusal? (request : Message) : Option String :=
  if request.isClosed then some "cannot invoke a plug with a closed request message"
  else if request.status = .ok then none
  else some "request messages must have status 200 OK"

/-- The copy of a request that follows redirects, if any are followed. -/
def replayOf (plug : Plug σ) (request : Message) : Option Message :=
  if 0 < plug.maxRedirects then request.copy.toOption else none

/-- Makes one hop and goes on with `follow` where a redirect leads, if there is more to follow. -/
def hopThen (exchange : Exchange σ) (verb : Verb) (timeout : Span)
    (follow : Option (Plug σ → Message → Activity σ Message)) (plug : Plug σ)
    (request : Message) : Activity σ Message :=
  match refusal? request with
  | some words => Activity.breakOff ⟨some words⟩
  | none => do
    match ← exchange.hop plug verb request timeout with
    | .stopped response => return response
    | .answered served response =>
      match follow, plug.redirect? (replayOf plug request) response with
      | some follow, some (next, replay) => follow next replay
      | _, _ => runAfter verb plug.uri served plug.after response

/-- Makes hops, at most so many after the first one. -/
def runWithin (exchange : Exchange σ) (verb : Verb) (timeout : Span) :
    Nat → Plug σ → Message → Activity σ Message
  | 0 => exchange.hopThen verb timeout none
  | budget + 1 => exchange.hopThen verb timeout (some (runWithin exchange verb timeout budget))

/-! ### Calls -/

/-- Makes a call. The body of the response may still be a stream. It breaks off if the request is
closed or its status is not that of requests. -/
def invokeLive (exchange : Exchange σ) (plug : Plug σ) (verb : Verb) (request : Message)
    (timeout : Span) : Activity σ Message :=
  exchange.runWithin verb timeout plug.maxRedirects plug request

/-- Reads the body of a response into memory within some time. -/
def settle (plug : Plug σ) (response : Message) (remaining : Span) : Activity σ Message := do
  let (result, response, spent) := response.memorize plug.maxBytes remaining
  Activity.wait spent
  match result with
  | .ok () => return response
  | .error fault => return Failure.unreadable fault

/-- Makes a call and reads the body of the response, all within some time. -/
def invokeWithin (exchange : Exchange σ) (plug : Plug σ) (verb : Verb) (request : Message)
    (timeout : Span) : Activity σ Message := do
  let started ← Activity.world
  let response ← exchange.invokeLive plug verb request timeout
  let arrived ← Activity.world
  settle plug response (timeout - (arrived.now - started.now))

/-- Makes a call within the time of the plug. -/
def invoke (exchange : Exchange σ) (plug : Plug σ) (verb : Verb) (request : Message) :
    Activity σ Message :=
  exchange.invokeWithin plug verb request plug.timeout

/-- What a response that is not a success says about itself. -/
def reasonOf (response : Message) : String :=
  match response.document with
  | .ok document => match document.get? "message" with
    | some (.text reason) => reason
    | _ => response.status.reason
  | .error _ => response.status.reason

/-- A response as the value of a call: a fault unless it is a success. -/
def outcome (response : Message) : Except CallFault Message :=
  if response.isSuccess then .ok response
  else .error (.response response.status (reasonOf response))

/-- Makes a call that has to succeed. -/
def call (exchange : Exchange σ) (plug : Plug σ) (verb : Verb) (request : Message) :
    Activity σ (Except CallFault Message) := do
  return outcome (← exchange.invoke plug verb request)

end Exchange

end Switchboard
