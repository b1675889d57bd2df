import Switchboard.Proofs.Activity.Alike
import Switchboard.Proofs.Exchange.Visits
import Switchboard.Proofs.Script.Mock
/-!
What another origin learns of who is calling.

Two calls are compared that differ only in who is calling: in credentials, in the headers for them
and for cookies, and in the cookies of the request. Their handlers are functions of what they see,
and their endpoints answer by a script, that is by how they were called before and not by what they
are handed. The endpoints may keep what they are handed, so the two worlds are compared by a view
that leaves this out.

* `Exchange.hop_meets`: hops that differ only in who is calling are answered alike.
* `Exchange.visits_alike`: equal calls in worlds of the same view hand endpoints the same.
* `Exchange.handed_alike_beyond_origin`: once a redirect has led both calls to another origin, all
  that endpoints are handed is the same, even if a later redirect leads back.
-/

namespace Switchboard

variable {σ τ : Type}

/-- A handler that is a function of what it sees. -/
def MessageHandler.IsFunction (handler : MessageHandler σ) : Prop :=
  ∀ verb uri served request, ∃ outcome,
    Activity.attempt (handler verb uri served request) = pure outcome

/-- The endpoints of a registry answer by a script: neither who is calling nor the request makes a
difference to what is seen of a call. -/
def Registry.Scripted (core : σ → τ) (registry : Registry σ) : Prop :=
  ∀ endpoint ∈ registry.endpoints, ∀ answer, endpoint.delivery = .answers answer →
    ∀ plug plug' verb uri request request' limit, plug.shed = plug'.shed →
      Activity.Alike core (answer plug verb uri request limit)
        (answer plug' verb uri request' limit)

/-- All that an endpoint is handed: a plug, a verb, a URI, a request and a time. -/
def Asked.handed (asked : Asked σ) : Plug σ × Verb × Uri × Message × Span :=
  (asked.plug, asked.verb, asked.found.uri, asked.request, asked.limit)

/-- All that an endpoint is handed in a step. -/
def Step.handed? (step : Step σ) : Option (Plug σ × Verb × Uri × Message × Span) :=
  step.asked?.map Asked.handed

/-- The plug and the request of a visit, and all that an endpoint is handed in it. -/
def Visit.handed (visit : Visit σ) : Plug σ × Message × List (Plug σ × Verb × Uri × Message × Span) :=
  (visit.plug, visit.request, visit.asked.map Asked.handed)

/-- What an endpoint is handed in a visit is what it is handed in the steps. -/
theorem Visit.map_handed_asked (visit : Visit σ) :
    visit.asked.map Asked.handed = visit.steps.filterMap Step.handed? :=
  List.map_filterMap

/-- A call that is delivered to scripted endpoints goes alike, whoever is calling. -/
theorem Registry.Scripted.deliver {core : σ → τ} {registry : Registry σ}
    (scripted : registry.Scripted core) {uri : Uri} {found : Match σ}
    (finds : registry.find uri = some found) {plug plug' : Plug σ} (plugs : plug.shed = plug'.shed)
    (verb : Verb) (request request' : Message) (limit : Span) :
    Activity.Alike core (registry.deliver found plug verb request limit)
      (registry.deliver found plug' verb request' limit) := by
  unfold Registry.deliver
  split
  · rename_i answer served routed
    obtain ⟨answering, listed, delivers⟩ := exists_endpoint_of_route finds routed
    exact scripted answering listed answer delivers plug plug' verb served request request' limit
      plugs
  · exact .pure _
  · exact .spin

namespace Exchange

variable {core : σ → τ} {exchange : Exchange σ} {plug plug' : Plug σ} {verb : Verb}
  {request request' : Message} {timeout : Span} {scope : Scope} {world world' : World σ}

/-! ### Parts of a hop -/

/-- Handlers that are functions make a function. -/
theorem exists_runBefore_eq (verb : Verb) (uri served : Uri) (handlers : List (MessageHandler σ))
    (functions : ∀ handler ∈ handlers, MessageHandler.IsFunction handler) : ∀ request,
      ∃ outcome, runBefore verb uri served handlers request = pure outcome := by
  induction handlers with
  | nil => exact fun request => ⟨.ok request, rfl⟩
  | cons handler rest ih =>
    intro request
    obtain ⟨outcome, same⟩ := functions handler List.mem_cons_self verb uri served request
    have later := ih fun other member => functions other (List.mem_cons_of_mem _ member)
    unfold runBefore
    rw [same, pure_bind]
    rcases outcome with panic | (_ | request)
    · exact ⟨_, rfl⟩
    · exact ⟨_, rfl⟩
    · simp only
      split
      · exact later request
      · exact ⟨_, rfl⟩

theorem jarOf_alike (exchange : Exchange σ) (plugs : plug.shed = plug'.shed) :
    Activity.Alike core (exchange.jarOf plug) (exchange.jarOf plug') := by
  obtain ⟨_, _, _, jars, _⟩ := Plug.shed_eq_iff.mp plugs
  unfold jarOf
  rw [jars]
  cases plug'.jar with
  | some jar => exact .pure jar
  | none => exact .bind .ambient fun ambient => .pure _

theorem keepCookies_alike (jar : JarName) (plugs : plug.shed = plug'.shed) (served : Uri)
    (response : Message) :
    Activity.Alike core (keepCookies jar plug served response)
      (keepCookies jar plug' served response) := by
  unfold keepCookies Plug.receivedCookies
  rw [(Plug.shed_eq_iff.mp plugs).1]
  split
  · exact .pure ()
  · exact .storeCookies _ _ _

/-- Handlers that are functions go alike, and of them nothing is handed to endpoints. -/
theorem tracedBefore_alike (verb : Verb) (uri served : Uri) {handlers : List (MessageHandler σ)}
    (functions : ∀ handler ∈ handlers, MessageHandler.IsFunction handler) :
    ∀ index request, Logged.Alike core Step.handed?
      (tracedBefore verb uri served index handlers request)
      (tracedBefore verb uri served index handlers request) := by
  induction handlers with
  | nil => exact fun _ _ => .pure _
  | cons handler rest ih =>
    intro index request
    obtain ⟨isFunction, others⟩ := List.forall_mem_cons.mp functions
    obtain ⟨outcome, same⟩ := isFunction verb uri served request
    unfold tracedBefore
    rw [same]
    refine .bind (.watch (.pure outcome) fun _ _ _ _ _ => rfl) fun outcome => ?_
    rcases outcome with panic | (_ | request)
    · exact .pure _
    · exact .pure _
    · simp only
      split
      · exact ih others (index + 1) request
      · exact .pure _

/-- Scripted endpoints answer alike, whoever is calling. -/
theorem answer_alike (scripted : exchange.registry.Scripted core) {uri : Uri} {found : Match σ}
    (finds : exchange.registry.find uri = some found) (plugs : plug.shed = plug'.shed)
    (verb : Verb) (request request' : Message) (limit : Span) :
    Activity.Alike core (exchange.answer found plug verb request limit)
      (exchange.answer found plug' verb request' limit) := by
  unfold answer
  rw [(Plug.shed_eq_iff.mp plugs).1]
  have delivery := scripted.deliver finds plugs verb request request' limit
  refine .bind (.within delivery.attempt limit) fun outcome => ?_
  split <;> exact .pure _

/-! ### Hops -/

/-- Two hops are answered alike: where both are answered, it is from the same place, with the same
response, and in worlds of the same view. -/
def AnsweredAlike (core : σ → τ) (one : HopEnd) (after : World σ) (other : HopEnd)
    (after' : World σ) : Prop :=
  ∀ served response served' response', one = .answered served response →
    other = .answered served' response' →
      served = served' ∧ response = response' ∧ after.view core = after'.view core

/-- What is not answered is answered like anything. -/
theorem meets_stopped_left {response : Message} {act : Activity σ HopEnd} :
    Activity.Meets core (AnsweredAlike core) (pure (.stopped response)) act := by
  intro scope world world' _ value after value' after' ran _ _ _ _ _ isAnswered
  cases ran
  cases isAnswered

theorem meets_stopped_right {response : Message} {act : Activity σ HopEnd} :
    Activity.Meets core (AnsweredAlike core) act (pure (.stopped response)) := by
  intro scope world world' _ value after value' after' _ ran _ _ _ _ _ isAnswered
  cases ran
  cases isAnswered

/-- **Hops that differ only in who is calling** are answered alike. -/
theorem hop_meets (scripted : exchange.registry.Scripted core)
    (functions : ∀ handler ∈ plug.before, MessageHandler.IsFunction handler)
    (plugs : plug.shed = plug'.shed) (verb : Verb) (request request' : Message) (timeout : Span) :
    Activity.Meets core (AnsweredAlike core) (exchange.hop plug verb request timeout)
      (exchange.hop plug' verb request' timeout) := by
  obtain ⟨uris, times, _, _, handlers, _⟩ := Plug.shed_eq_iff.mp plugs
  unfold hop
  rw [← uris, ← times, ← handlers]
  cases finds : exchange.registry.find plug.uri with
  | none => exact meets_stopped_left
  | some found =>
    refine .bind (jarOf_alike exchange plugs) fun jar => ?_
    refine .bind (.fetchCookies jar plug.uri) fun cookies => ?_
    obtain ⟨outcome, same⟩ := exists_runBefore_eq verb plug.uri found.uri plug.before functions
      (plug.dress cookies request)
    obtain ⟨outcome', same'⟩ := exists_runBefore_eq verb plug.uri found.uri plug.before functions
      (plug'.dress cookies request')
    rw [same, same', pure_bind, pure_bind]
    cases outcome with
    | error response => exact meets_stopped_left
    | ok dressed =>
      cases outcome' with
      | error response => exact meets_stopped_right
      | ok dressed' =>
        refine .bind (answer_alike scripted finds plugs verb dressed dressed' _) fun outcome => ?_
        cases outcome with
        | error response => exact meets_stopped_left
        | ok response =>
          refine .bind (keepCookies_alike jar plugs found.uri response) fun _ => .pure ?_
          intro world world' views _ _ _ _ isAnswered isAnswered'
          cases isAnswered
          cases isAnswered'
          exact ⟨rfl, rfl, views⟩

/-- Having a scripted endpoint answer goes alike, and hands it the same. -/
theorem tracedAnswer_alike (scripted : exchange.registry.Scripted core) {uri : Uri}
    {found : Match σ} (finds : exchange.registry.find uri = some found) (plug : Plug σ) (verb : Verb)
    (request : Message) (limit : Span) :
    Logged.Alike core Step.handed? (exchange.tracedAnswer found plug verb request limit)
      (exchange.tracedAnswer found plug verb request limit) := by
  unfold tracedAnswer
  have delivery := scripted.deliver finds (Eq.refl plug.shed) verb request request limit
  refine .bind (.watch (.within delivery.attempt limit) fun _ _ _ _ _ => rfl) fun outcome => ?_
  split <;> exact .pure _

/-- Equal hops in worlds of the same view go alike, and hand endpoints the same. -/
theorem tracedHop_alike (scripted : exchange.registry.Scripted core)
    (functions : ∀ handler ∈ plug.before, MessageHandler.IsFunction handler) (verb : Verb)
    (request : Message) (timeout : Span) :
    Logged.Alike core Step.handed? (exchange.tracedHop plug verb request timeout)
      (exchange.tracedHop plug verb request timeout) := by
  unfold tracedHop
  refine .bind (.note fun _ _ _ _ => rfl) fun _ => ?_
  cases finds : exchange.registry.find plug.uri with
  | none => exact .pure _
  | some found =>
    refine .bind (.of (jarOf_alike exchange rfl)) fun jar => ?_
    refine .bind (.of (.fetchCookies jar plug.uri)) fun cookies => ?_
    refine .bind (.note fun _ _ _ _ => rfl) fun _ => ?_
    refine .bind (tracedBefore_alike verb plug.uri found.uri functions 0 _) fun outcome => ?_
    cases outcome with
    | error response => exact .pure _
    | ok dressed =>
      refine .bind (tracedAnswer_alike scripted finds plug verb dressed _) fun outcome => ?_
      cases outcome with
      | error response => exact .pure _
      | ok response =>
        exact .bind (.of (keepCookies_alike jar rfl found.uri response)) fun _ => .pure _

/-! ### Equal calls -/

/-- Equal hops in worlds of the same view lead on to the same, hand endpoints the same, and leave
worlds of the same view. -/
theorem visit_alike (scripted : exchange.registry.Scripted core)
    (functions : ∀ handler ∈ plug.before, MessageHandler.IsFunction handler)
    (worlds : world.view core = world'.view core) :
    let visit := exchange.visit plug verb request timeout scope world
    let visit' := exchange.visit plug verb request timeout scope world'
    visit.next? = visit'.next? ∧ visit.handed = visit'.handed ∧
      visit.ended.view core = visit'.ended.view core := by
  obtain ⟨endings, views, handed⟩ :=
    tracedHop_alike scripted functions verb request timeout scope world world' worlds
  refine ⟨Visit.next?_congr rfl rfl endings, ?_, views⟩
  unfold Visit.handed
  rw [Visit.map_handed_asked, Visit.map_handed_asked]
  exact congrArg (fun asked => (plug, request, asked)) handed

/-- **Equal calls in worlds of the same view** hand endpoints the same. -/
theorem visits_alike (scripted : exchange.registry.Scripted core)
    (functions : ∀ handler ∈ plug.before, MessageHandler.IsFunction handler)
    (worlds : world.view core = world'.view core) :
    (exchange.visits plug verb request timeout scope world).map Visit.handed
      = (exchange.visits plug verb request timeout scope world').map Visit.handed := by
  revert world'
  revert functions
  refine visits_induction (motive := fun plug request world visits =>
    (∀ handler ∈ plug.before, MessageHandler.IsFunction handler) →
      ∀ {world' : World σ}, world.view core = world'.view core →
        visits.map Visit.handed
          = (exchange.visits plug verb request timeout scope world').map Visit.handed)
    ?_ ?_ ?_ plug request world
  · intro plug request world refused _ world' _
    obtain ⟨words, refusal⟩ := Option.ne_none_iff_exists'.mp refused
    rw [visits_of_refusal refusal]
  · intro plug request world accepted last functions world' worlds
    obtain ⟨follows, handed, _⟩ := visit_alike scripted functions worlds
    rw [visits_of_last accepted (follows.symm.trans last)]
    exact congrArg (fun handed => [handed]) handed
  · intro plug request world following replay accepted leads later functions world' worlds
    obtain ⟨follows, handed, views⟩ := visit_alike scripted functions worlds
    obtain ⟨_, _, _, redirected⟩ := Visit.exists_answer_of_next leads
    have sameHandlers : following.before = plug.before := (Plug.kept_by_redirect redirected).2.1
    rw [visits_of_next accepted (follows.symm.trans leads), List.map_cons, List.map_cons, handed,
      later (sameHandlers.symm ▸ functions) views]

/-! ### Calls that differ in who is calling -/

/-- **What hops that differ only in who is calling lead on to** differs in no more, and not at all
after a redirect to another origin. -/
theorem next_alike (scripted : exchange.registry.Scripted core)
    (functions : ∀ handler ∈ plug.before, MessageHandler.IsFunction handler)
    (plugs : plug.shed = plug'.shed) (requests : request.shed = request'.shed)
    (worlds : world.view core = world'.view core) {next next' : Plug σ} {replay replay' : Message}
    (leads : (exchange.visit plug verb request timeout scope world).next? = some (next, replay))
    (leads' : (exchange.visit plug' verb request' timeout scope world').next?
      = some (next', replay')) :
    next.shed = next'.shed ∧ replay.shed = replay'.shed ∧
      (plug.crosses next.uri = true → next = next' ∧ replay = replay') ∧
      (exchange.visit plug verb request timeout scope world).ended.view core
        = (exchange.visit plug' verb request' timeout scope world').ended.view core := by
  obtain ⟨served, response, answered, redirected⟩ := Visit.exists_answer_of_next leads
  obtain ⟨served', response', answered', redirected'⟩ := Visit.exists_answer_of_next leads'
  have meets := hop_meets scripted functions plugs verb request request' timeout scope world world'
    worlds _ _ _ _ (hop_eq_visit.trans (by rw [answered])) (hop_eq_visit.trans (by rw [answered']))
  obtain ⟨_, rfl, views⟩ := meets served response served' response' rfl rfl
  obtain ⟨plugsLater, requestsLater, equal⟩ :=
    Plug.redirect_alike plugs requests redirected redirected'
  exact ⟨plugsLater, requestsLater, equal, views⟩

/-- **Once a redirect has led both calls to another origin, all that endpoints are handed is the
same**: the plugs, the requests and what is made of them, from that hop to the end. -/
theorem handed_alike_beyond_origin (exchange : Exchange σ) (core : σ → τ) (plug plug' : Plug σ)
    (verb : Verb) (request request' : Message) (timeout : Span) (scope : Scope)
    (world world' : World σ) (step : Nat) (previous reached reached' : Visit σ)
    (scripted : exchange.registry.Scripted core)
    (functions : ∀ handler ∈ plug.before, MessageHandler.IsFunction handler)
    (policy : plug.redirectPolicy = .sameOrigin)
    (plugs : plug.shed = plug'.shed) (requests : request.shed = request'.shed)
    (worlds : world.view core = world'.view core)
    (before : (exchange.visits plug verb request timeout scope world)[step]? = some previous)
    (here : (exchange.visits plug verb request timeout scope world)[step + 1]? = some reached)
    (here' : (exchange.visits plug' verb request' timeout scope world')[step + 1]?
      = some reached')
    (elsewhere : previous.plug.uri.sameOrigin reached.plug.uri = false) :
    ((exchange.visits plug verb request timeout scope world).drop (step + 1)).map Visit.handed
      = ((exchange.visits plug' verb request' timeout scope world').drop (step + 1)).map
          Visit.handed := by
  induction step generalizing plug plug' request request' world world' with
  | zero =>
    obtain ⟨accepted, rfl⟩ := eq_of_getElem?_zero before
    obtain ⟨_, next, replay, leads, first⟩ := exists_next_of_getElem?_succ here
    obtain ⟨accepted', next', replay', leads', first'⟩ := exists_next_of_getElem?_succ here'
    obtain ⟨_, rfl⟩ := eq_of_getElem?_zero first
    have crosses : plug.crosses next.uri = true := by
      unfold Plug.crosses
      rw [policy, show plug.uri.sameOrigin next.uri = false from elsewhere]
      rfl
    obtain ⟨_, _, equal, views⟩ := next_alike scripted functions plugs requests worlds leads leads'
    obtain ⟨rfl, rfl⟩ := equal crosses
    obtain ⟨_, _, _, redirected⟩ := Visit.exists_answer_of_next leads
    have sameHandlers : next.before = plug.before := (Plug.kept_by_redirect redirected).2.1
    rw [visits_of_next accepted leads, visits_of_next accepted' leads']
    exact visits_alike scripted (sameHandlers.symm ▸ functions) views
  | succ step ih =>
    obtain ⟨accepted, next, replay, leads, later⟩ := exists_next_of_getElem?_succ here
    obtain ⟨accepted', next', replay', leads', later'⟩ := exists_next_of_getElem?_succ here'
    obtain ⟨plugsLater, requestsLater, _, views⟩ :=
      next_alike scripted functions plugs requests worlds leads leads'
    obtain ⟨_, _, _, redirected⟩ := Visit.exists_answer_of_next leads
    obtain ⟨_, sameHandlers, _, samePolicy⟩ := Plug.kept_by_redirect redirected
    have functionsLater : ∀ handler ∈ next.before, MessageHandler.IsFunction handler := by
      rw [sameHandlers]
      exact functions
    rw [visits_of_next accepted leads] at before
    rw [visits_of_next accepted leads, visits_of_next accepted' leads']
    exact ih next next' replay replay' _ _ functionsLater (samePolicy.trans policy) plugsLater
      requestsLater views before later later'

/-! ### There and back -/

/-- A script that redirects to another host and back again. -/
def bounceScript : List Script.Entry :=
  [Message.redirect .found "mock://away/", Message.redirect .found "mock://home/again",
    Message.ok].map fun message => { pause := none, action := .replies message none }

/-- Calls to an endpoint with that script. -/
def bounceExchange : Exchange Script.Trace :=
  { registry := ⟨[{ key := 0, name := "bounce", score := Script.mockScore .null
                    delivery := .answers (Script.mockAnswer "bounce" 0 bounceScript) }]⟩
    jar := .shared, settings := .standard }

/-- A plug for the first host, with headers and perhaps credentials. -/
def bouncePlug (headers : List (String × String)) (credentials : Option Credentials) :
    Plug Script.Trace :=
  { bounceExchange.plug (Uri.ofPlace "mock" "home" []) with
    headers := .ofPairs headers, credentials }

/-- A plug that tells who is calling. -/
def knownPlug : Plug Script.Trace :=
  bouncePlug [("Accept", "*"), ("cookie", "id=ada")] (some { username := "ada", password := "x" })

/-- A plug that does not. -/
def unknownPlug : Plug Script.Trace := bouncePlug [("Accept", "*")] none

/-- A request that tells who is calling. -/
def knownRequest : Message :=
  (Message.ok.setHeader "PROXY-authorization" "token").addCookie (Cookie.ofPair "session" "1")

/-- The visits of a call. -/
def bounceVisits (plug : Plug Script.Trace) (request : Message) : List (Visit Script.Trace) :=
  bounceExchange.visits plug .get request (Span.ofSeconds 60) .outermost (World.initial 0 .empty)

theorem bounceExchange_scripted : bounceExchange.registry.Scripted Script.Trace.calls := by
  intro endpoint member answer delivers plug plug' verb uri request request' limit _
  rw [List.mem_singleton.mp member] at delivers
  cases delivers
  refine Script.mockAnswer_alike _ _ (fun entry listed isEcho => ?_) plug plug' verb uri request
    request' limit
  obtain ⟨message, _, rfl⟩ := List.mem_map.mp listed
  cases isEcho

/-- A call that goes there and back makes three hops, and whoever is calling, endpoints are handed
the same from the second one on. -/
theorem bounce_handed_alike :
    (bounceVisits knownPlug knownRequest).length = 3 ∧
      ((bounceVisits knownPlug knownRequest).drop 1).map Visit.handed
        = ((bounceVisits unknownPlug Message.ok).drop 1).map Visit.handed := by
  have leaves : ((bounceVisits knownPlug knownRequest)[0]?.bind fun previous =>
      (bounceVisits knownPlug knownRequest)[1]?.map fun reached =>
        previous.plug.uri.sameOrigin reached.plug.uri) = some false := by decide +kernel
  have leavesToo : (bounceVisits unknownPlug Message.ok)[1]?.isSome = true := by decide +kernel
  obtain ⟨previous, before, leaves⟩ := Option.bind_eq_some_iff.mp leaves
  obtain ⟨reached, here, elsewhere⟩ := Option.map_eq_some_iff.mp leaves
  obtain ⟨reached', here'⟩ := Option.isSome_iff_exists.mp leavesToo
  have headers : Plug.anonymous knownPlug.headers = Plug.anonymous unknownPlug.headers := by
    decide +kernel
  have plugs : knownPlug.shed = unknownPlug.shed :=
    Plug.shed_eq_iff.mpr ⟨rfl, rfl, headers, rfl, rfl, rfl, rfl, rfl, rfl⟩
  have requestHeaders : Plug.anonymous knownRequest.headers = Plug.anonymous Message.ok.headers := by
    decide +kernel
  have requests : knownRequest.shed = Message.ok.shed := by
    unfold Message.shed
    rw [requestHeaders]
    rfl
  exact ⟨by decide +kernel, handed_alike_beyond_origin bounceExchange Script.Trace.calls knownPlug
    unknownPlug .get knownRequest Message.ok (Span.ofSeconds 60) .outermost
    (World.initial 0 .empty) (World.initial 0 .empty) 0 previous reached reached'
    bounceExchange_scripted (fun handler absent => nomatch absent) rfl plugs requests rfl before here
    here' elsewhere⟩

end Exchange

end Switchboard
