import Switchboard.Proofs.Exchange.Endless
import Switchboard.Proofs.Exchange.RedirectChain
/-!
What a call comes to.

A call returns a response whatever endpoints do: they may answer with any message or with a fault,
break off, or wait for ever. So may handlers, if only they come to an end. Only an endpoint that
never lets go keeps a call from returning. The response has its body in memory. What it is is decided
by the first step that does not pass, and no step comes after that one; if all pass, it is decided by
the reading of the body.

* `Exchange.hop_steady` and `Exchange.invokeLive_steady`: no part of a call breaks off or waits for
  ever.
* `Exchange.Outcome` says what a response can be, and `Exchange.invokeWithin_outcome` says that it
  is one of these.
-/

namespace Switchboard

variable {σ : Type}

namespace Exchange

/-! ### Calls are steady -/

theorem runBefore_steady (verb : Verb) (uri served : Uri) {handlers : List (MessageHandler σ)}
    (ends : ∀ handler ∈ handlers, MessageHandler.Ends handler) (request : Message) :
    (runBefore verb uri served handlers request).Steady := by
  induction handlers generalizing request with
  | nil => exact .pure _
  | cons handler rest ih =>
    obtain ⟨first, others⟩ := List.forall_mem_cons.mp ends
    refine .bind (.attempt (first verb uri served request)) fun outcome => ?_
    rcases outcome with panic | (_ | request)
    · exact .pure _
    · exact .pure _
    · simp only
      split
      · exact ih others request
      · exact .pure _

theorem runAfter_steady (verb : Verb) (uri served : Uri) {handlers : List (MessageHandler σ)}
    (ends : ∀ handler ∈ handlers, MessageHandler.Ends handler) (response : Message) :
    (runAfter verb uri served handlers response).Steady := by
  induction handlers generalizing response with
  | nil => exact .pure _
  | cons handler rest ih =>
    obtain ⟨first, others⟩ := List.forall_mem_cons.mp ends
    refine .bind (.attempt (first verb uri served response)) fun outcome => ?_
    rcases outcome with panic | (_ | response)
    · exact .pure _
    · exact .pure _
    · exact ih others response

variable (exchange : Exchange σ)

theorem answer_steady (found : Match σ) (plug : Plug σ) (verb : Verb) (request : Message)
    (limit : Span) : (exchange.answer found plug verb request limit).Steady := by
  refine .bind (.within_attempt limit _) fun outcome => ?_
  rcases outcome with _ | (panic | (fault | response)) <;> exact .pure _

/-- **A hop is steady**, whatever its endpoint does. -/
theorem hop_steady (plug : Plug σ) (verb : Verb) (request : Message) (timeout : Span)
    (ends : ∀ handler ∈ plug.before, MessageHandler.Ends handler) :
    (exchange.hop plug verb request timeout).Steady := by
  unfold hop
  cases exchange.registry.find plug.uri with
  | none => exact .pure _
  | some found =>
    refine .bind (.of_done (exchange.jarOf_done plug)) fun jar => ?_
    refine .bind (.of_done fun _ _ => ⟨_, rfl⟩) fun cookies => ?_
    refine .bind (runBefore_steady verb plug.uri found.uri ends _) fun outcome => ?_
    cases outcome with
    | error response => exact .pure _
    | ok request =>
      refine .bind (exchange.answer_steady _ _ _ _ _) fun outcome => ?_
      cases outcome with
      | error response => exact .pure _
      | ok response =>
        exact .bind (.of_done fun _ _ => ⟨(), keepCookies_done _ _ _ _ _ _⟩) fun _ => .pure _

/-- A last hop is steady with what comes after it. -/
theorem tracedLast_steady (plug : Plug σ) (verb : Verb) (request : Message) (timeout : Span)
    (endsBefore : ∀ handler ∈ plug.before, MessageHandler.Ends handler)
    (endsAfter : ∀ handler ∈ plug.after, MessageHandler.Ends handler) :
    (exchange.tracedLast plug verb request timeout).plain.Steady := by
  unfold tracedLast
  rw [Logged.plain_bind, plain_tracedHop]
  refine .bind (exchange.hop_steady plug verb request timeout endsBefore) fun ending => ?_
  cases ending with
  | stopped response => exact .pure _
  | answered served response =>
    unfold tracedRest
    rw [plain_tracedAfter]
    exact runAfter_steady verb plug.uri served endsAfter response

/-- **A call is steady**, whatever endpoints do. -/
theorem invokeLive_steady (plug : Plug σ) (verb : Verb) (request : Message) (timeout : Span)
    (scope : Scope) (world : World σ) (accepted : refusal? request = none)
    (endsBefore : ∀ handler ∈ plug.before, MessageHandler.Ends handler)
    (endsAfter : ∀ handler ∈ plug.after, MessageHandler.Ends handler) :
    (∃ live, (exchange.invokeLive plug verb request timeout scope world).1 = .done live) ∨
      ((exchange.invokeLive plug verb request timeout scope world).1 = .expired ∧
        scope.deadline ≠ none) ∨
      (exchange.invokeLive plug verb request timeout scope world).1 = .endless := by
  obtain ⟨_, lastPlug, lastRequest, began, _, ends, _, befores, afters⟩ :=
    exchange.exists_last_hop plug verb timeout scope world accepted
  have steady := exchange.tracedLast_steady lastPlug verb lastRequest timeout
    (fun handler member => endsBefore handler (befores ▸ member))
    (fun handler member => endsAfter handler (afters ▸ member)) scope began
  rw [plain_tracedLast] at steady
  rw [ends]
  exact steady

/-! ### Reading the body -/

theorem settle_steady (plug : Plug σ) (live : Message) (remaining : Span) :
    (settle plug live remaining : Activity σ Message).Steady := by
  unfold settle
  refine .bind (.wait _) fun _ => ?_
  split <;> exact .pure _

section Settled

variable {plug : Plug σ} {live response : Message} {remaining : Span} {scope : Scope}
  {world : World σ}

/-- What is read is the response, unless the reading fails. -/
theorem of_settle_done (done : (settle plug live remaining scope world).1 = .done response) :
    (∃ spent, live.memorize plug.maxBytes remaining = (.ok (), response, spent)) ∨
      ∃ fault, (live.memorize plug.maxBytes remaining).1 = .error fault ∧
        response = Failure.unreadable fault := by
  unfold settle at done
  rcases read : live.memorize plug.maxBytes remaining with ⟨result, memorized, spent⟩
  rw [read] at done
  obtain ⟨_, _, done⟩ := Activity.bind_done_iff.mp done
  cases result with
  | ok read =>
    cases done
    exact Or.inl ⟨spent, rfl⟩
  | error fault =>
    cases done
    exact Or.inr ⟨fault, rfl, rfl⟩

/-- The response that tells of a failed reading is in memory, and its status tells whether time ran
out. -/
theorem gives_unreadable (fault : BodyFault) :
    (Verdict.fails (if fault.isTimeout then 22 else 21)).Gives (Failure.unreadable fault) := by
  unfold Failure.unreadable
  split <;> exact Failure.gives_explain _ _

/-- What is read in time is the response, and it is within the limit if it was a stream; otherwise
the status tells that the reading failed. -/
theorem reading_of_settle_done
    (done : (settle plug live remaining scope world).1 = .done response) :
    (∃ spent, live.memorize plug.maxBytes remaining = (.ok (), response, spent) ∧
        (live.isLive = true →
          ∃ data, response.body = .bytes data ∧ data.length ≤ plug.maxBytes)) ∨
      ∃ fault, (live.memorize plug.maxBytes remaining).1 = .error fault ∧
        response.status.code = if fault.isTimeout then 22 else 21 := by
  rcases of_settle_done done with ⟨spent, read⟩ | ⟨fault, failed, rfl⟩
  · refine Or.inl ⟨spent, read, fun isLive => ?_⟩
    rcases Message.memorize_ok read with ⟨inMemory, _⟩ | ⟨_, bounded⟩
    · rw [Message.isCloneable_of_isLive isLive] at inMemory
      cases inMemory
    · exact bounded
  · exact Or.inr ⟨fault, failed, (gives_unreadable fault).1⟩

/-- A response can be had as bytes and copied. -/
theorem inMemory_of_settle_done
    (done : (settle plug live remaining scope world).1 = .done response) :
    response.isCloneable = true ∧ (∃ data, response.bytes = .ok data) ∧
      response.copy = .ok response := by
  have inMemory : response.isCloneable = true := by
    rcases of_settle_done done with ⟨spent, read⟩ | ⟨fault, failed, rfl⟩
    · exact Message.isCloneable_of_memorize read
    · exact (gives_unreadable fault).2
  exact ⟨inMemory, Message.bytes_of_isCloneable inMemory,
    Message.copy_eq_ok_iff.mpr ⟨inMemory, rfl⟩⟩

/-- What tells of a failure is not changed by being read. -/
theorem code_of_settle_done {code : Nat} (gives : (Verdict.fails code).Gives live)
    (done : (settle plug live remaining scope world).1 = .done response) :
    response.status.code = code := by
  obtain ⟨same, inMemory⟩ := gives
  have read := of_settle_done done
  rw [Message.memorize_of_isCloneable inMemory] at read
  rcases read with ⟨spent, here⟩ | ⟨fault, failed, _⟩
  · cases here
    exact same
  · cases failed

end Settled

/-! ### What a call comes to -/

/-- **What the response of a call is**, if `earlier` are the hops that redirects follow, `last` is
the last one, and `live` is what there is to be read after it. -/
structure Outcome (exchange : Exchange σ) (plug : Plug σ) (verb : Verb) (request : Message)
    (timeout : Span) (scope : Scope) (world : World σ) (earlier : List (Visit σ))
    (last : Visit σ) (live response : Message) : Prop where
  hops : exchange.visits plug verb request timeout scope world = earlier ++ [last]
  trace : exchange.trace plug verb request timeout scope world
    = earlier.flatMap (exchange.hopSteps verb timeout scope)
      ++ exchange.lastSteps verb timeout scope last
  /-- Wherever a redirect is followed, every step has passed. -/
  passed : ∀ hop ∈ earlier, ∀ step ∈ exchange.hopSteps verb timeout scope hop,
    step.verdict = .passes
  /-- The steps of the last hop are true, and so is the time that they tell. -/
  tells : ∀ step ∈ exchange.lastSteps verb timeout scope last,
    step.Tells exchange last.plug verb last.request timeout scope
  kept : last.plug.timeout = plug.timeout ∧ last.plug.before = plug.before ∧
    last.plug.after = plug.after
  /-- They go as the plug plans them, and if all pass, there is none that is left out. -/
  planned : (exchange.lastSteps verb timeout scope last).map Step.kind <+: plug.lastPlan
  complete : (∀ step ∈ exchange.lastSteps verb timeout scope last, step.verdict = .passes) →
    (exchange.lastSteps verb timeout scope last).map Step.kind = plug.lastPlan
  /-- A step that does not pass is the last one, and what there is to be read is what it means. -/
  decided : ∀ step ∈ exchange.lastSteps verb timeout scope last, step.verdict ≠ .passes →
    (exchange.lastSteps verb timeout scope last).getLast? = some step ∧ step.verdict.Gives live
  ends : (exchange.invokeLive plug verb request timeout scope world).1 = .done live
  /-- The code of a step that fails is that of the response. -/
  failed : ∀ step ∈ exchange.lastSteps verb timeout scope last, ∀ code,
    step.verdict = .fails code → response.status.code = code
  /-- What is read in the time that is left is the response; what was a stream is within the limit.
  Otherwise the status tells that the reading failed. -/
  reading : let remaining := timeout -
      ((exchange.invokeLive plug verb request timeout scope world).2.now - world.now)
    (∃ spent, live.memorize plug.maxBytes remaining = (.ok (), response, spent) ∧
        (live.isLive = true →
          ∃ data, response.body = .bytes data ∧ data.length ≤ plug.maxBytes)) ∨
      ∃ fault, (live.memorize plug.maxBytes remaining).1 = .error fault ∧
        response.status.code = if fault.isTimeout then 22 else 21
  /-- The body is in memory, so that it can be had as bytes and the response can be copied. -/
  inMemory : response.isCloneable = true ∧ (∃ data, response.bytes = .ok data) ∧
    response.copy = .ok response

variable {exchange} {plug : Plug σ} {verb : Verb} {request : Message} {timeout : Span}
  {scope : Scope} {world : World σ}

/-- What a plug plans depends on its handlers alone. -/
theorem lastPlan_congr {one other : Plug σ} (befores : one.before = other.before)
    (afters : one.after = other.after) : one.lastPlan = other.lastPlan := by
  unfold Plug.lastPlan Plug.hopPlan
  rw [befores, afters]

/-- Wherever a redirect is followed, every step has passed. -/
theorem passes_of_mem_earlier {earlier : List (Visit σ)} {last hop : Visit σ}
    (hops : exchange.visits plug verb request timeout scope world = earlier ++ [last])
    (member : hop ∈ earlier) :
    ∀ step ∈ exchange.hopSteps verb timeout scope hop, step.verdict = .passes := by
  obtain ⟨index, within, here⟩ := List.getElem_of_mem member
  have isHere : (exchange.visits plug verb request timeout scope world)[index]? = some hop := by
    rw [hops, List.getElem?_append_left within, List.getElem?_eq_getElem within, here]
  have isThere : index + 1 < (exchange.visits plug verb request timeout scope world).length := by
    rw [hops, List.length_append]
    exact Nat.succ_lt_succ within
  obtain ⟨_, _, response, obtained, _⟩ := (exists_getElem?_succ_iff isHere).mp
    ⟨_, List.getElem?_eq_getElem isThere, rfl⟩
  obtain ⟨_, _, _, rfl⟩ := exists_of_mem_visits hop (List.mem_of_getElem? isHere)
  exact (passes_of_obtained obtained).2

/-- **What is returned is one of the responses that a call can come to.** -/
theorem exists_outcome_of_done (accepted : refusal? request = none) {live response : Message}
    (ended : (exchange.invokeLive plug verb request timeout scope world).1 = .done live)
    (settled : (settle plug live (timeout -
      ((exchange.invokeLive plug verb request timeout scope world).2.now - world.now)) scope
      (exchange.invokeLive plug verb request timeout scope world).2).1 = .done response) :
    ∃ earlier last,
      exchange.Outcome plug verb request timeout scope world earlier last live response := by
  obtain ⟨earlier, lastPlug, lastRequest, began, hops, ends, timeouts, befores, afters⟩ :=
    exchange.exists_last_hop plug verb timeout scope world accepted
  -- The last plug has the handlers of the first one, so that its plan is the same.
  have course := exchange.tracedLast_follows lastPlug verb lastRequest timeout scope began
  have plan : lastPlug.lastPlan = plug.lastPlan := lastPlan_congr befores afters
  rw [plain_tracedLast, ← ends, ended, plan] at course
  have decided : ∀ step ∈ exchange.lastSteps verb timeout scope
      (exchange.visit lastPlug verb lastRequest timeout scope began), step.verdict ≠ .passes →
        (exchange.lastSteps verb timeout scope
          (exchange.visit lastPlug verb lastRequest timeout scope began)).getLast? = some step ∧
        step.verdict.Gives live := by
    intro step member fails
    obtain ⟨isLast, other, gives, rfl⟩ := course.decides member fails
    exact ⟨isLast, gives⟩
  exact ⟨earlier, _, {
    hops
    trace := by rw [trace_eq, hops, stepsOf_append]
    passed := fun hop member => passes_of_mem_earlier hops member
    tells := fun step member => tells_of_mem_lastSteps member
    kept := ⟨timeouts, befores, afters⟩
    planned := course.kinds_isPrefix
    complete := course.kinds_of_passes
    decided
    ends := ended
    failed := fun step member code fails =>
      code_of_settle_done (fails ▸ (decided step member (by rw [fails]; nofun)).2) settled
    reading := reading_of_settle_done settled
    inMemory := inMemory_of_settle_done settled }⟩

/-- **Every call that no deadline from outside cuts off comes to a response**, unless an endpoint that
is asked in one of its hops never lets go: the call does not break off, and whatever went wrong is
told by the status of the response. -/
theorem invokeWithin_outcome (exchange : Exchange σ) (plug : Plug σ) (verb : Verb)
    (request : Message) (timeout : Span) (scope : Scope) (world : World σ)
    (accepted : refusal? request = none)
    (endsBefore : ∀ handler ∈ plug.before, MessageHandler.Ends handler)
    (endsAfter : ∀ handler ∈ plug.after, MessageHandler.Ends handler) :
    ((exchange.invokeWithin plug verb request timeout scope world).1 = .endless ↔
        ∃ visit ∈ exchange.visits plug verb request timeout scope world, ∃ asked ∈ visit.asked,
          exchange.NeverLetsGo asked) ∧
      ((exchange.invokeWithin plug verb request timeout scope world).1 ≠ .endless →
        ((exchange.invokeWithin plug verb request timeout scope world).1 = .expired ∧
            scope.deadline ≠ none) ∨
          ∃ earlier last live response,
            (exchange.invokeWithin plug verb request timeout scope world).1 = .done response ∧
              exchange.Outcome plug verb request timeout scope world earlier last live
                response) := by
  refine ⟨invokeWithin_endless_iff.trans (invokeLive_endless_iff endsBefore endsAfter),
    fun returns => ?_⟩
  rcases exchange.invokeLive_steady plug verb request timeout scope world accepted endsBefore
    endsAfter with ⟨live, ended⟩ | ⟨expired, given⟩ | endless
  · have settles : exchange.invokeWithin plug verb request timeout scope world
        = settle plug live (timeout -
            ((exchange.invokeLive plug verb request timeout scope world).2.now - world.now)) scope
            (exchange.invokeLive plug verb request timeout scope world).2 :=
      Activity.bind_of_done ended
    rw [settles]
    rcases settle_steady plug live _ scope _ with ⟨response, settled⟩ | expired | endless
    · obtain ⟨earlier, last, outcome⟩ := exists_outcome_of_done accepted ended settled
      exact Or.inr ⟨earlier, last, live, response, settled, outcome⟩
    · exact Or.inl expired
    · exact absurd endless (settle_ne_endless _ _ _ _ _)
  · refine Or.inl ⟨?_, given⟩
    change ((exchange.invokeLive plug verb request timeout >>= _) scope world).1 = _
    exact Activity.bind_of_expired expired
  · exact absurd (invokeWithin_endless_iff.mpr endless) returns

/-! ### A lapse -/

/-- Calls to an endpoint that redirects once and then answers with a stream. -/
def lapseExchange : Exchange Script.Trace :=
  Script.mockExchange "lapse" ([Message.redirect .found "mock://home/next",
    Message.ofStream .ok Headers.empty Message.mimeText [.bytes [104, 105]] none].map fun message =>
      { pause := none, action := .replies message none })

/-- A plug with a handler that keeps every response. -/
def lapsePlug : Plug Script.Trace :=
  { lapseExchange.plug (Uri.ofPlace "mock" "home" []) with after := [fun _ _ _ _ => return none] }

/-- The call comes to the status of a missing response. -/
theorem lapse_outcome : ∃ earlier last live response,
    lapseExchange.Outcome lapsePlug .get Message.ok (Span.ofSeconds 60) .outermost
      (World.initial 0 .empty) earlier last live response ∧ response.status = .responseMissing := by
  have status : (lapseExchange.invokeWithin lapsePlug .get Message.ok (Span.ofSeconds 60) .outermost
      (World.initial 0 .empty)).1.value?.map Message.status = some .responseMissing := by
    decide +kernel
  have endsAfter : ∀ handler ∈ lapsePlug.after, MessageHandler.Ends handler := by
    intro handler member
    rw [List.mem_singleton.mp member]
    exact fun _ _ _ _ _ _ => ⟨nofun, nofun⟩
  have returns : (lapseExchange.invokeWithin lapsePlug .get Message.ok (Span.ofSeconds 60) .outermost
      (World.initial 0 .empty)).1 ≠ .endless := by
    intro endless
    rw [endless] at status
    cases status
  rcases (invokeWithin_outcome lapseExchange lapsePlug .get Message.ok (Span.ofSeconds 60) .outermost
    (World.initial 0 .empty) rfl (fun _ absent => nomatch absent) endsAfter).2 returns with
    ⟨_, given⟩ | ⟨earlier, last, live, response, done, outcome⟩
  · exact absurd rfl given
  · rw [done] at status
    exact ⟨earlier, last, live, response, outcome, Option.some.inj status⟩

/-! ### Calls that never return -/

/-- Calls to endpoints of which each hands on to the other. -/
def roundaboutExchange : Exchange Unit :=
  { registry := Registry.ofSwaps Registry.roundabout, jar := .shared, settings := .standard }

/-- Calls to an endpoint that goes on for ever. -/
def busyExchange : Exchange Unit :=
  { registry := ⟨[{ key := 0, name := "busy", score := fun uri => some (1, uri)
                    delivery := .answers fun _ _ _ _ _ => Activity.spin }]⟩
    jar := .shared, settings := .standard }

/-- **Some calls never return**, whatever time they are given: one that is handed on in a circle, and
one to an endpoint that goes on for ever. Their request is open, and there are no handlers. -/
theorem some_calls_never_return : refusal? Message.ok = none ∧
    (∃ uri, Uri.parse "a://h/" = .ok uri ∧
      (roundaboutExchange.invokeWithin (roundaboutExchange.plug uri) .get Message.ok
        (Span.ofSeconds 60) .outermost (World.initial 0 ())).1 = .endless) ∧
    (busyExchange.invokeWithin (busyExchange.plug (Uri.ofPlace "busy" "h" [])) .get Message.ok
      (Span.ofSeconds 60) .outermost (World.initial 0 ())).1 = .endless := by
  refine ⟨rfl, ⟨_, Registry.parse_roundabout, ?_⟩, ?_⟩
  · obtain ⟨found, finds, nowhere⟩ := Registry.roundabout_leads_nowhere
    refine invokeWithin_of_neverLetsGo rfl finds (fun _ _ _ _ => ?_) rfl
    exact Registry.deliver_endless_iff.mpr (Or.inl (Registry.route_eq_none_iff.mpr nowhere))
  · refine invokeWithin_of_neverLetsGo rfl rfl (fun _ _ _ _ => ?_) rfl
    exact Registry.deliver_endless_iff.mpr (Or.inr ⟨_, _, Registry.route_of_answers rfl, rfl⟩)

end Exchange

end Switchboard
