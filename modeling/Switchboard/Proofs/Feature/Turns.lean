import Switchboard.Proofs.Feature.StageRuns
/-!
A request in memory can be read again and again.

Plans take turns at one request: each finds its arguments in what the one before has left, or fails
half way, and may be given a response of its own. A request in memory persists through all of this.
So each plan gets what it would have got, had it been the first; and nothing but the response of the
stage before is ever used up.

* `Message.Persists`: a message tells the same as another one, and is in memory.
* `Turn.takeTurns`: plans that take turns at a request.
* `Turn.takeTurns_replays`: what each of them finds and takes, and what is left.
-/

namespace Switchboard

/-! ### Messages that persist -/

/-- **A message persists as another one**: it is in memory, and tells the same in all respects. -/
structure Message.Persists (before after : Message) : Prop where
  status : after.status = before.status
  headers : after.headers = before.headers
  cookies : after.cookies = before.cookies
  inMemory : after.isCloneable = true
  copied : ∃ copy, after.copy = .ok copy
  bytes : after.bytes = before.bytes
  document : after.document = before.document
  string : after.string = before.string
  contentLength? : after.contentLength? = before.contentLength?

/-- A message in memory persists as what differs from it in no more than what the body keeps. -/
theorem Message.persists_of_fresh {before after : Message} (inMemory : before.isCloneable = true)
    (same : after.fresh = before.fresh) : before.Persists after where
  status := status_congr same
  headers := headers_congr same
  cookies := cookies_congr same
  inMemory := (isCloneable_congr same).trans inMemory
  copied := ⟨after, copy_eq_ok_iff.mpr ⟨(isCloneable_congr same).trans inMemory, rfl⟩⟩
  bytes := bytes_congr same
  document := document_congr same
  string := string_congr same
  contentLength? := contentLength?_congr same

/-! ### Arguments for requests that persist -/

/-- Arguments in which copies of the request keep nothing. -/
def Arguments.fresh (arguments : Arguments) : Arguments :=
  { arguments with values := Plan.freshValues arguments.values }

/-- **What a plan finds** in requests that differ in no more than what their bodies keep is the same,
up to what copies of these requests keep. -/
theorem Plan.map_fresh_extract (plan : Plan) (context : Context) {one other : Pending}
    (inMemory : other.request.isCloneable = true)
    (requests : one.request.fresh = other.request.fresh)
    (responses : one.previous = other.previous) :
    (plan.extract context one).1.map Arguments.fresh
      = (plan.extract context other).1.map Arguments.fresh := by
  have alsoInMemory := (Message.isCloneable_congr requests).trans inMemory
  have alike := (extractAll_extracts context plan.bindings alsoInMemory).map_fresh_eq
    (extractAll_extracts context plan.bindings inMemory) requests responses
  have shape : ∀ work : Except FeatureFault (List (String × Argument)),
      (work.map fun values => Arguments.mk context values).map Arguments.fresh
        = (work.map freshValues).map fun values => Arguments.mk context values := fun work => by
    cases work <;> rfl
  rw [extract_fst, extract_fst, shape, shape, alike]

/-! ### Turns -/

/-- A plan whose turn it is, in which circumstances, with the response of the stage before. -/
structure Turn where
  plan : Plan
  context : Context
  previous : Option Message

/-- What comes of a turn: the arguments or why there are none, and the response of the stage before,
unless it was taken. -/
structure Turn.Outcome where
  result : Except FeatureFault Arguments
  previous : Option Message

namespace Turn

/-- What a plan finds in a request when its turn comes. -/
def find (turn : Turn) (request : Message) : Except FeatureFault Arguments × Pending :=
  turn.plan.extract turn.context { request, previous := turn.previous }

/-- Plans take turns at a request. Returns what comes of each turn, and what is left of the
request. -/
def takeTurns : List Turn → Message → List Outcome × Message
  | [], request => ([], request)
  | turn :: rest, request =>
    let (result, left) := turn.find request
    let (outcomes, last) := takeTurns rest left.request
    ({ result, previous := left.previous } :: outcomes, last)

/-- **A turn comes out as if it was the first**: what is found is what would be found in the request
itself. The response of the stage before is gone just if a binding asks for it that comes before any
that fails; and of the bindings that ask for it only the first gets it. -/
structure ComesOut (request : Message) (turn : Turn) (outcome : Outcome) : Prop where
  result : outcome.result.map Arguments.fresh = (turn.find request).1.map Arguments.fresh
  previous : outcome.previous =
    if (Plan.reached turn.context request turn.plan.bindings).any (·.extractor = .response)
      then none else turn.previous
  responses : ∀ arguments, outcome.result = .ok arguments →
    Plan.responsesOf arguments.values = Plan.handedOut turn.previous turn.plan.bindings

theorem comesOut_find (turn : Turn) {request given : Message}
    (inMemory : request.isCloneable = true) (same : given.fresh = request.fresh) :
    ComesOut request turn
      { result := (turn.find given).1, previous := (turn.find given).2.previous } := by
  let pending : Pending := { request := given, previous := turn.previous }
  have stillInMemory : pending.request.isCloneable = true :=
    (Message.isCloneable_congr same).trans inMemory
  refine ⟨turn.plan.map_fresh_extract turn.context inMemory same rfl, ?_, fun arguments found => ?_⟩
  · have extracts := Plan.extractAll_extracts turn.context turn.plan.bindings stillInMemory
    unfold find
    rw [Plan.extract_snd, extracts.previous_eq, Plan.reached_congr same]
  · exact turn.plan.responses_of_extract turn.context stillInMemory found

/-- What a turn leaves of a request in memory. -/
theorem fresh_find (turn : Turn) {request : Message} (inMemory : request.isCloneable = true) :
    (turn.find request).2.request.fresh = request.fresh :=
  turn.plan.fresh_extract turn.context inMemory

theorem takeTurns_fresh (turns : List Turn) {request : Message}
    (inMemory : request.isCloneable = true) : ∀ {given : Message}, given.fresh = request.fresh →
      (takeTurns turns given).2.fresh = request.fresh ∧
        List.Forall₂ (ComesOut request) turns (takeTurns turns given).1 := by
  induction turns with
  | nil => exact fun same => ⟨same, .nil⟩
  | cons turn rest ih =>
    intro given same
    have left : (turn.find given).2.request.fresh = request.fresh :=
      (turn.fresh_find ((Message.isCloneable_congr same).trans inMemory)).trans same
    obtain ⟨lasts, others⟩ := ih left
    exact ⟨lasts, .cons (turn.comesOut_find inMemory same) others⟩

/-- **A request in memory persists**, whatever plans take turns at it and whether they succeed or
fail, and every turn comes out as if it was the first. So it is for the stages of a feature: each
finds the request that the feature is executed for, and its arguments in it. -/
theorem takeTurns_replays {request : Message} (inMemory : request.isCloneable = true) :
    (∀ turns, request.Persists (takeTurns turns request).2 ∧
      List.Forall₂ (ComesOut request) turns (takeTurns turns request).1) ∧
    ∀ {σ : Type} (feature : Feature σ) (context : Context) (scope : Scope) (world : World σ),
      ∀ run ∈ (feature.loggedExecute context request).events scope world,
        run.context = context ∧ request.Persists run.pending.request ∧
        (run.stage.plan.extract context run.pending).1.map Arguments.fresh
          = (run.stage.plan.extract context
              { request, previous := run.pending.previous }).1.map Arguments.fresh := by
  constructor
  · intro turns
    obtain ⟨left, outcomes⟩ := takeTurns_fresh turns inMemory (rfl : request.fresh = request.fresh)
    exact ⟨Message.persists_of_fresh inMemory left, outcomes⟩
  · intro σ feature context scope world run member
    obtain ⟨_, sameContext, same⟩ := Feature.of_mem_events_loggedExecute inMemory member
    exact ⟨sameContext, Message.persists_of_fresh inMemory same,
      run.stage.plan.map_fresh_extract context inMemory same rfl⟩

/-! ### Two turns -/

/-- A request with a document. -/
def orderRequest : Message := .ofDocument .ok Headers.empty (.list [.text "tea"])

/-- A plan that takes the response of the stage before, reads the body, and then fails for want of
a number; and a plan that reads the body once more. -/
def orderTurns : List Turn :=
  let context : Context :=
    { service := "orders", signature := "orders", verb := .post, access := .anyone
      path := PathArguments.none
      uri :=
        { scheme := "local", authority := none, dotted := false, path := .segments ["orders"]
          query := some "count=many", fragment := none } }
  [{ context, previous := some .ok
     plan := ⟨[⟨"earlier", .response⟩, ⟨"body", .body .bytes⟩, ⟨"count", .query "count" .int⟩]⟩ },
    { context, previous := some .ok
      plan := ⟨[⟨"body", .body .document⟩, ⟨"copy", .request⟩, ⟨"text", .body .text⟩]⟩ }]

/-- An order is read a second time after a plan has failed, which has taken the response of the
stage before. -/
theorem orderTurns_replay : orderRequest.isCloneable = true ∧
    orderRequest.Persists (takeTurns orderTurns orderRequest).2 ∧
    List.Forall₂ (ComesOut orderRequest) orderTurns (takeTurns orderTurns orderRequest).1 ∧
    (takeTurns orderTurns orderRequest).1.map (fun outcome =>
      (outcome.result.isOk, outcome.previous.isSome)) = [(false, false), (true, true)] := by
  have inMemory : orderRequest.isCloneable = true := rfl
  obtain ⟨persists, outcomes⟩ := (takeTurns_replays inMemory).1 orderTurns
  exact ⟨inMemory, persists, outcomes, by decide +kernel⟩

end Turn

end Switchboard
