import Switchboard.Exchange
import Switchboard.Proofs.Activity.Clock
import Switchboard.Proofs.Activity.Log
/-!
The steps of a hop, one by one.

`Exchange.tracedHop` is `Exchange.hop` with a note of every step: who serves the URI, which request
is dressed, what comes of each handler and of the endpoint. A step is noted even if it is cut off.

* `Exchange.plain_tracedHop`: the notes are all that was added.
* `Exchange.tracedRest` notes the steps after a hop that no redirect follows.
-/

namespace Switchboard

/-- What an endpoint is asked for, and in which circumstances. -/
structure Asked (σ : Type) where
  found : Match σ
  plug : Plug σ
  verb : Verb
  request : Message
  limit : Span
  scope : Scope
  world : World σ

/-- A step of a call, with what came of it. -/
inductive Step (σ : Type) where
  /-- The registry is asked who serves a URI. -/
  | find (uri : Uri) (found : Option (Match σ))
  /-- The plug puts on a request what it adds to every request. -/
  | dress (cookies : List Cookie) (request : Message)
  /-- A handler before the endpoint sees a request. -/
  | before (index : Nat) (request : Message) (outcome : Ending (Except Panic (Option Message)))
  /-- The endpoint is asked to answer within a limit of time. -/
  | ask (asked : Asked σ) (outcome : Ending (Option (Except Panic (Except CallFault Message))))
  /-- A handler after the endpoint sees a response. -/
  | after (index : Nat) (response : Message) (outcome : Ending (Except Panic (Option Message)))

variable {σ : Type}

/-- The scope of what an endpoint does. -/
def Asked.within (asked : Asked σ) : Scope :=
  Activity.limited asked.limit asked.scope asked.world

namespace Step

/-- The answer among what can come of asking an endpoint. -/
def given? : Option (Except Panic (Except CallFault Message)) → Option Message
  | some (.ok (.ok response)) => some response
  | _ => none

/-- What an endpoint is asked for in a step. -/
def asked? : Step σ → Option (Asked σ)
  | .ask asked _ => some asked
  | _ => none

/-- What an endpoint answers in a step. -/
def answer? : Step σ → Option Message
  | .ask _ (.done outcome) => given? outcome
  | _ => none

end Step

namespace Exchange

variable (exchange : Exchange σ)

/-! ### Jars -/

/-- Every plug has a jar. -/
theorem jarOf_done (plug : Plug σ) (scope : Scope) (world : World σ) :
    ∃ jar, (exchange.jarOf plug scope world).1 = .done jar := by
  unfold jarOf
  cases plug.jar with
  | some jar => exact ⟨jar, rfl⟩
  | none => exact ⟨_, rfl⟩

/-- Cookies are always stored. -/
theorem keepCookies_done (jar : JarName) (plug : Plug σ) (served : Uri) (response : Message)
    (scope : Scope) (world : World σ) :
    (keepCookies jar plug served response scope world).1 = .done () := by
  unfold keepCookies
  split <;> rfl

/-! ### Running with notes -/

/-- Has the handlers before the endpoint see a request, and notes each of them. -/
def tracedBefore (verb : Verb) (uri served : Uri) :
    Nat → List (MessageHandler σ) → Message → Logged (Step σ) σ (Except Message Message)
  | _, [], request => return .ok request
  | index, handler :: rest, request => do
    match ← Logged.watch (fun _ _ => .before index request)
      (Activity.attempt (handler verb uri served request)) with
    | .error panic => return .error (Failure.requestPanic panic)
    | .ok none => return .error Failure.requestMissing
    | .ok (some request) =>
      if request.status = .ok then tracedBefore verb uri served (index + 1) rest request
      else return .error request

/-- Has the handlers after the endpoint see a response, and notes each of them. -/
def tracedAfter (verb : Verb) (uri served : Uri) :
    Nat → List (MessageHandler σ) → Message → Logged (Step σ) σ Message
  | _, [], response => return response
  | index, handler :: rest, response => do
    match ← Logged.watch (fun _ _ => .after index response)
      (Activity.attempt (handler verb uri served response)) with
    | .error panic => return Failure.responsePanic panic
    | .ok none => return Failure.responseMissing
    | .ok (some response) => tracedAfter verb uri served (index + 1) rest response

/-- Has an endpoint answer within some time, and notes it. -/
def tracedAnswer (found : Match σ) (plug : Plug σ) (verb : Verb) (request : Message)
    (limit : Span) : Logged (Step σ) σ (Except Message Message) := do
  let delivery := exchange.registry.deliver found plug verb request limit
  match ← Logged.watch
    (fun scope world => .ask { found, plug, verb, request, limit, scope, world })
    (Activity.within limit (Activity.attempt delivery)) with
  | none => return .error (Failure.late plug.uri limit)
  | some (.error panic) => return .error (Failure.requestPanic panic)
  | some (.ok (.error fault)) => return .error (Failure.unanswered fault)
  | some (.ok (.ok response)) => return .ok response

/-- Makes one hop and notes its steps. -/
def tracedHop (plug : Plug σ) (verb : Verb) (request : Message) (timeout : Span) :
    Logged (Step σ) σ HopEnd := do
  Logged.note fun _ _ => .find plug.uri (exchange.registry.find plug.uri)
  match exchange.registry.find plug.uri with
  | none => return .stopped (Failure.noEndpoint plug.uri)
  | some found =>
    let jar ← Logged.of (exchange.jarOf plug)
    let cookies ← Logged.of (Activity.fetchCookies jar plug.uri)
    Logged.note fun _ _ => .dress cookies request
    match ← tracedBefore verb plug.uri found.uri 0 plug.before (plug.dress cookies request) with
    | .error response => return .stopped response
    | .ok request =>
      match ← exchange.tracedAnswer found plug verb request (min plug.timeout timeout) with
      | .error response => return .stopped response
      | .ok response =>
        Logged.of (keepCookies jar plug found.uri response)
        return .answered found.uri response

/-- Goes on from a hop that no other one follows. -/
def tracedRest (verb : Verb) (plug : Plug σ) : HopEnd → Logged (Step σ) σ Message
  | .stopped response => return response
  | .answered served response => tracedAfter verb plug.uri served 0 plug.after response

/-! ### The notes are all that was added -/

theorem plain_tracedBefore (verb : Verb) (uri served : Uri) (handlers : List (MessageHandler σ)) :
    ∀ index request, (tracedBefore verb uri served index handlers request).plain
      = runBefore verb uri served handlers request := by
  induction handlers with
  | nil => exact fun _ _ => rfl
  | cons handler rest ih =>
    intro index request
    simp only [tracedBefore, runBefore, Logged.plain_bind, Logged.plain_watch]
    congr 1
    funext outcome
    rcases outcome with panic | (_ | request)
    · rfl
    · rfl
    · simp only
      split
      · exact ih (index + 1) request
      · rfl

theorem plain_tracedAfter (verb : Verb) (uri served : Uri) (handlers : List (MessageHandler σ)) :
    ∀ index response, (tracedAfter verb uri served index handlers response).plain
      = runAfter verb uri served handlers response := by
  induction handlers with
  | nil => exact fun _ _ => rfl
  | cons handler rest ih =>
    intro index response
    simp only [tracedAfter, runAfter, Logged.plain_bind, Logged.plain_watch]
    congr 1
    funext outcome
    rcases outcome with panic | (_ | response)
    · rfl
    · rfl
    · exact ih (index + 1) response

theorem plain_tracedAnswer (found : Match σ) (plug : Plug σ) (verb : Verb) (request : Message)
    (limit : Span) : (exchange.tracedAnswer found plug verb request limit).plain
      = exchange.answer found plug verb request limit := by
  unfold tracedAnswer answer
  simp only [Logged.plain_bind, Logged.plain_watch]
  congr 1
  funext outcome
  rcases outcome with _ | (panic | (fault | response)) <;> rfl

theorem plain_tracedHop (plug : Plug σ) (verb : Verb) (request : Message) (timeout : Span) :
    (exchange.tracedHop plug verb request timeout).plain
      = exchange.hop plug verb request timeout := by
  unfold tracedHop hop
  rw [Logged.plain_note_bind]
  cases exchange.registry.find plug.uri with
  | none => rfl
  | some found =>
    refine (Logged.plain_bind _ _).trans (congrArg _ (funext fun jar => ?_))
    refine (Logged.plain_bind _ _).trans (congrArg _ (funext fun cookies => ?_))
    rw [Logged.plain_note_bind, Logged.plain_bind, plain_tracedBefore]
    congr 1
    funext outcome
    cases outcome with
    | error response => rfl
    | ok request =>
      simp only [Logged.plain_bind, plain_tracedAnswer]
      congr 1
      funext outcome
      cases outcome with
      | error response => rfl
      | ok response => exact Logged.plain_bind _ _

/-- A hop that no other one follows goes on with the handlers after the endpoint. -/
theorem plain_tracedRest (verb : Verb) (plug : Plug σ) (served : Uri) (response : Message) :
    (tracedRest verb plug (.answered served response)).plain
      = runAfter verb plug.uri served plug.after response :=
  plain_tracedAfter verb plug.uri served plug.after 0 response

end Exchange

end Switchboard
