import Switchboard.Proofs.Exchange.Obtained
import Switchboard.Proofs.Script.Mock
/-!
What a redirect replays.

Every hop of a call begins with the request of the caller, and not with what an earlier hop made of
it: neither the cookies of a jar, nor the headers of the plug, nor what handlers or endpoints did to
the request are in it. Once a redirect has led to another origin, and unless the policy is to tell
everyone, the request has shed what tells who is calling; that is all that can be missing.

* `Exchange.request_of_getElem?` says with which request a hop begins.
* `Exchange.dressed_is_replayed` says so of the request that the plug dresses.
-/

namespace Switchboard

variable {σ : Type}

/-- What has shed who is calling has nothing more to shed. -/
theorem Message.shed_shed (message : Message) : message.shed.shed = message.shed := by
  unfold shed
  rw [Plug.anonymous_anonymous]

/-- Among the first `count` redirects there is one that led to another origin. -/
def Visit.Crossed (visits : List (Visit σ)) (count : Nat) : Prop :=
  ∃ step < count, ∃ here there, visits[step]? = some here ∧ visits[step + 1]? = some there ∧
    here.plug.uri.sameOrigin there.plug.uri = false

theorem Visit.crossed_succ {visits : List (Visit σ)} {count : Nat} {here there : Visit σ}
    (isHere : visits[count]? = some here) (isThere : visits[count + 1]? = some there) :
    Crossed visits (count + 1) ↔
      Crossed visits count ∨ here.plug.uri.sameOrigin there.plug.uri = false := by
  constructor
  · rintro ⟨step, within, from', to', isFrom, isTo, elsewhere⟩
    rcases Nat.lt_succ_iff_lt_or_eq.mp within with earlier | rfl
    · exact Or.inl ⟨step, earlier, from', to', isFrom, isTo, elsewhere⟩
    · rw [isHere] at isFrom
      rw [isThere] at isTo
      cases isFrom
      cases isTo
      exact Or.inr elsewhere
  · rintro (⟨step, within, crossed⟩ | elsewhere)
    · exact ⟨step, Nat.lt_succ_of_lt within, crossed⟩
    · exact ⟨count, Nat.lt_succ_self count, here, there, isHere, isThere, elsewhere⟩

namespace Exchange

variable {exchange : Exchange σ} {plug : Plug σ} {verb : Verb} {request : Message}
  {timeout : Span} {scope : Scope} {world : World σ}

/-- **With which request a hop begins**: that of the caller, which has shed who is calling once a
redirect led to another origin under the policy for that. -/
theorem request_of_getElem? {step : Nat} {reached : Visit σ}
    (here : (exchange.visits plug verb request timeout scope world)[step]? = some reached) :
    (plug.redirectPolicy = .sameOrigin ∧
        Visit.Crossed (exchange.visits plug verb request timeout scope world) step →
      reached.request = request.shed) ∧
    (¬ (plug.redirectPolicy = .sameOrigin ∧
        Visit.Crossed (exchange.visits plug verb request timeout scope world) step) →
      reached.request = request) := by
  induction step generalizing reached with
  | zero =>
    obtain ⟨_, rfl⟩ := eq_of_getElem?_zero here
    exact ⟨fun ⟨_, _, within, _⟩ => absurd within (Nat.not_lt_zero _), fun _ => rfl⟩
  | succ step ih =>
    obtain ⟨prior, next, replay, earlier, follows, rfl⟩ := exists_prior_of_getElem?_succ here
    obtain ⟨_, _, _, redirected⟩ := Visit.exists_answer_of_next follows
    obtain ⟨shed, kept⟩ := ih earlier
    have policy : prior.plug.redirectPolicy = plug.redirectPolicy :=
      (kept_of_getElem? earlier).2.2.2.2
    have replayed := Plug.request_of_redirect redirected
    rw [Visit.crossed_succ earlier here]
    -- The hop before leaves the origin under the policy, or hands on the request that it had.
    by_cases crosses : prior.plug.crosses next.uri = true
    · rw [if_pos crosses] at replayed
      obtain ⟨sameOrigin, elsewhere⟩ := Plug.crosses_iff.mp crosses
      refine ⟨fun _ => ?_, fun stays => ?_⟩
      · by_cases before : Visit.Crossed (exchange.visits plug verb request timeout scope world) step
        · exact replayed.trans (by rw [shed ⟨policy ▸ sameOrigin, before⟩, Message.shed_shed])
        · exact replayed.trans (by rw [kept fun both => before both.2])
      · exact absurd ⟨policy ▸ sameOrigin, Or.inr elsewhere⟩ stays
    · rw [if_neg crosses] at replayed
      refine ⟨fun ⟨sameOrigin, crossed⟩ => ?_, fun stays => ?_⟩
      · refine replayed.trans (shed ⟨sameOrigin, crossed.resolve_right fun elsewhere => ?_⟩)
        exact crosses (Plug.crosses_iff.mpr ⟨policy.trans sameOrigin, elsewhere⟩)
      · exact replayed.trans (kept fun ⟨sameOrigin, crossed⟩ => stays ⟨sameOrigin, Or.inl crossed⟩)

/-- No hop changes whether the request can be replayed. -/
theorem isCloneable_of_getElem? {step : Nat} {reached : Visit σ}
    (here : (exchange.visits plug verb request timeout scope world)[step]? = some reached) :
    reached.request.isCloneable = request.isCloneable := by
  obtain ⟨shed, kept⟩ := request_of_getElem? here
  by_cases crossed : plug.redirectPolicy = .sameOrigin ∧
      Visit.Crossed (exchange.visits plug verb request timeout scope world) step
  · rw [shed crossed]
    rfl
  · rw [kept crossed]

/-- **What the plug dresses** in a hop is the request that the hop began with. -/
theorem eq_of_dress {cookies : List Cookie} {given : Message}
    (dressed : Step.dress cookies given ∈ exchange.hopSteps verb timeout scope
      (exchange.visit plug verb request timeout scope world)) : given = request := by
  cases tells_of_mem_hopSteps dressed
  rfl

/-- **The request that a plug dresses in a hop is the one that the caller made**, whatever earlier
hops, handlers and endpoints did. Just under the policy for that, and once a redirect led to another
origin, it lacks the cookies and the headers that tell who is calling, and nothing else. -/
theorem dressed_is_replayed (exchange : Exchange σ) (plug : Plug σ) (verb : Verb)
    (request : Message) (timeout : Span) (scope : Scope) (world : World σ) (step : Nat)
    (hop : Visit σ) (cookies : List Cookie) (given : Message)
    (here : (exchange.visits plug verb request timeout scope world)[step]? = some hop)
    (dressed : Step.dress cookies given ∈ exchange.hopSteps verb timeout scope hop) :
    let crossed := plug.redirectPolicy = .sameOrigin ∧
      Visit.Crossed (exchange.visits plug verb request timeout scope world) step
    given.status = request.status ∧ given.body = request.body ∧
      (crossed → given.cookies = [] ∧ given.headers.entries = request.headers.entries.filter
        fun header => !(["Authorization", "Proxy-Authorization", "Cookie"].any fun name =>
          header.isNamed name)) ∧
      (¬ crossed → given = request) := by
  intro crossed
  obtain ⟨shed, kept⟩ := request_of_getElem? here
  obtain ⟨_, _, _, rfl⟩ := exists_of_mem_visits _ (List.mem_of_getElem? here)
  obtain rfl := eq_of_dress dressed
  by_cases isCrossed : crossed
  · rw [show given = request.shed from shed isCrossed]
    exact ⟨rfl, rfl, fun _ => ⟨rfl, Plug.anonymous_entries request.headers⟩,
      fun stayed => absurd isCrossed stayed⟩
  · rw [show given = request from kept isCrossed]
    exact ⟨rfl, rfl, fun isCrossed' => absurd isCrossed' isCrossed, fun _ => rfl⟩

/-! ### An errand -/

/-- Calls to an endpoint that redirects to the same host and then to another one. -/
def errandExchange : Exchange Script.Trace :=
  Script.mockExchange "errand" ([Message.redirect .found "mock://home/next",
    Message.redirect .found "mock://away/", Message.ok].map fun message =>
      { pause := none, action := .replies message none })

/-- A plug with credentials and a header, and a handler that puts another request in the place of
each. -/
def errandPlug : Plug Script.Trace :=
  { errandExchange.plug (Uri.ofPlace "mock" "home" []) with
    headers := .ofPairs [("X-Plug", "1")]
    credentials := some { username := "ada", password := "x" }
    before := [fun _ _ _ _ => return some (Message.okText "another one")] }

/-- A request that tells who is calling. -/
def errandRequest : Message :=
  ((Message.okText "please").setHeader "cookie" "id=ada").addCookie (Cookie.ofPair "session" "1")

/-- The visits of the call. -/
def errandVisits : List (Visit Script.Trace) :=
  errandExchange.visits errandPlug .get errandRequest (Span.ofSeconds 60) .outermost
    (World.initial 0 .empty)

/-- At the other host, the plug is handed the request of the caller without the two cookies. -/
theorem errand_replayed : ∃ hop cookies given, errandVisits[2]? = some hop ∧
    Step.dress cookies given ∈ errandExchange.hopSteps .get (Span.ofSeconds 60) .outermost hop ∧
    given.status = .ok ∧ given.body = errandRequest.body ∧ given.cookies = [] ∧
    given.headers.entries = [⟨"Content-Type", Message.mimeText⟩] := by
  have dresses : (errandVisits[2]?.any fun hop =>
      (errandExchange.hopSteps .get (Span.ofSeconds 60) .outermost hop).any fun step =>
        step.kind = .dress) = true := by decide +kernel
  have leaves : (errandVisits[1]?.any fun here => errandVisits[2]?.any fun there =>
      here.plug.uri.sameOrigin there.plug.uri = false) = true := by decide +kernel
  obtain ⟨hop, reached, dresses⟩ := (Option.any_eq_true _ _).mp dresses
  obtain ⟨step, member, isDress⟩ := List.any_eq_true.mp dresses
  obtain ⟨here, isHere, leaves⟩ := (Option.any_eq_true _ _).mp leaves
  obtain ⟨there, isThere, elsewhere⟩ := (Option.any_eq_true _ _).mp leaves
  cases step with
  | dress cookies given =>
    obtain ⟨status, body, shed, _⟩ := dressed_is_replayed errandExchange errandPlug .get
      errandRequest (Span.ofSeconds 60) .outermost (World.initial 0 .empty) 2 hop cookies given
      reached member
    obtain ⟨noCookies, headers⟩ := shed ⟨rfl, 1, Nat.one_lt_two, here, there, isHere, isThere,
      of_decide_eq_true elsewhere⟩
    exact ⟨hop, cookies, given, reached, member, status, body, noCookies,
      headers.trans (by decide +kernel)⟩
  | find uri found => cases of_decide_eq_true isDress
  | before index request outcome => cases of_decide_eq_true isDress
  | ask asked outcome => cases of_decide_eq_true isDress
  | after index response outcome => cases of_decide_eq_true isDress

end Exchange

end Switchboard
