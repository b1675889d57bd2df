import Switchboard.Proofs.Activity.Returns
import Switchboard.Proofs.Exchange.Replay
/-!
Chains of redirects.

A call makes a hop and, as long as a hop obtains a redirect to follow, another one. When there is
another hop, and to which place, depends on four things alone: on what the hop obtained, on the
place that it was for, on the redirects that are left, and on whether the request of the caller is
in memory. The handlers after the endpoint see what the last hop obtained, and nothing before.

* `Message.LeadsTo` says which responses are redirects to follow, and to which place they lead.
* `Visit.exists_next_iff`: when another hop follows a hop.
* `Exchange.RedirectChain` is what all calls have in common, and `Exchange.visits_redirectChain`
  says that they do.
-/

namespace Switchboard

variable {σ : Type}

/-- **A response leads from one place to another**: it is one of the redirects that keep the verb,
and its first location joins onto the place. -/
def Message.LeadsTo (response : Message) (place target : Uri) : Prop :=
  response.status.code ∈ [301, 302, 307] ∧ ∃ location,
    response.headers.get? "Location" = some location ∧ place.join location = .ok target

/-- A response leads to one place at most. -/
theorem Message.LeadsTo.unique {response : Message} {place target other : Uri}
    (leads : response.LeadsTo place target) (leads' : response.LeadsTo place other) :
    target = other := by
  obtain ⟨_, location, named, joins⟩ := leads
  obtain ⟨_, location', named', joins'⟩ := leads'
  rw [named'] at named
  cases named
  exact Except.ok.inj (joins.symm.trans joins')

/-- What follows a visit follows what it obtained. -/
theorem Visit.next?_eq (visit : Visit σ) : visit.next? = visit.obtained?.bind
    (visit.plug.redirect? (Exchange.replayOf visit.plug visit.request)) := by
  unfold next? obtained?
  rcases visit.ending with (response | ⟨served, response⟩) | panic | _ | _ <;> rfl

/-- **When another hop follows a visit**, and to which place it leads. -/
theorem Visit.exists_next_iff {visit : Visit σ} {target : Uri} :
    (∃ next replay, visit.next? = some (next, replay) ∧ next.uri = target) ↔
      visit.request.isCloneable = true ∧ 0 < visit.plug.maxRedirects ∧
        ∃ response, visit.obtained? = some response ∧ response.LeadsTo visit.plug.uri target := by
  rw [next?_eq]
  constructor
  · rintro ⟨next, replay, follows, rfl⟩
    obtain ⟨response, obtained, redirected⟩ := Option.bind_eq_some_iff.mp follows
    obtain ⟨⟨followable, _⟩, target, copy, leads, copied, made⟩ :=
      Plug.redirect?_eq_some_iff.mp redirected
    obtain ⟨allowed, inMemory, _⟩ := Plug.replayOf_eq_some_iff.mp copied
    rw [Plug.uri_of_redirectTo made]
    exact ⟨inMemory, allowed, response, obtained, of_decide_eq_true followable,
      Plug.target?_eq_some_iff.mp leads⟩
  · rintro ⟨inMemory, allowed, response, obtained, followable, leads⟩
    have redirected : visit.plug.redirect? (Exchange.replayOf visit.plug visit.request) response
        = some (visit.plug.redirectTo target visit.request) :=
      Plug.redirect?_eq_some_iff.mpr ⟨⟨decide_eq_true followable, allowed⟩, target, visit.request,
        Plug.target?_eq_some_iff.mpr leads,
        Plug.replayOf_eq_some_iff.mpr ⟨allowed, inMemory, rfl⟩, rfl⟩
    exact ⟨_, _, Option.bind_eq_some_iff.mpr ⟨response, obtained, redirected⟩,
      Plug.uri_of_redirectTo rfl⟩

/-- A plug plans to ask one endpoint in a hop. -/
theorem Plug.count_ask_hopPlan (plug : Plug σ) : plug.hopPlan.count .ask = 1 := by
  unfold hopPlan
  have befores : ((List.range' 0 plug.before.length).map StepKind.before).count .ask = 0 :=
    List.count_eq_zero.mpr fun member => by
      obtain ⟨_, _, none⟩ := List.mem_map.mp member
      cases none
  rw [List.count_cons_of_ne (by decide), List.count_cons_of_ne (by decide), List.count_append,
    befores]
  rfl

namespace Exchange

variable {exchange : Exchange σ} {plug : Plug σ} {verb : Verb} {request : Message}
  {timeout : Span} {scope : Scope} {world : World σ}

/-- **When there is another hop**, and to which place. -/
theorem exists_getElem?_succ_iff {step : Nat} {hop : Visit σ} {target : Uri}
    (here : (exchange.visits plug verb request timeout scope world)[step]? = some hop) :
    (∃ next, (exchange.visits plug verb request timeout scope world)[step + 1]? = some next ∧
        next.plug.uri = target) ↔
      request.isCloneable = true ∧ step < plug.maxRedirects ∧
        ∃ response, hop.obtained? = some response ∧ response.LeadsTo hop.plug.uri target := by
  have budget : hop.plug.maxRedirects + step = plug.maxRedirects := (kept_of_getElem? here).1
  rw [getElem?_succ here, ← isCloneable_of_getElem? here, ← budget, Nat.lt_add_left_iff_pos,
    ← Visit.exists_next_iff]
  constructor
  · rintro ⟨later, led, rfl⟩
    obtain ⟨⟨next, replay⟩, follows, rfl⟩ := Option.map_eq_some_iff.mp led
    exact ⟨next, replay, follows, rfl⟩
  · rintro ⟨next, replay, follows, rfl⟩
    exact ⟨_, Option.map_eq_some_iff.mpr ⟨(next, replay), follows, rfl⟩, rfl⟩

/-- A call of which every hop obtains a redirect to follow makes all hops that it may make. -/
theorem length_visits_of_redirected (accepted : refusal? request = none)
    (inMemory : request.isCloneable = true)
    (redirected : ∀ hop ∈ exchange.visits plug verb request timeout scope world,
      ∃ response target, hop.obtained? = some response ∧ response.LeadsTo hop.plug.uri target) :
    (exchange.visits plug verb request timeout scope world).length = plug.maxRedirects + 1 := by
  refine Nat.le_antisymm length_visits_le (Nat.le_of_not_lt fun fewer => ?_)
  obtain ⟨earlier, last, visits, _⟩ := exchange.exists_last plug verb timeout scope world accepted
  have here : (exchange.visits plug verb request timeout scope world)[earlier.length]?
      = some last := by
    rw [visits]
    exact List.getElem?_concat_length
  obtain ⟨response, target, obtained, leads⟩ := redirected last (List.mem_of_getElem? here)
  rw [visits, List.length_append] at fewer
  obtain ⟨next, there, _⟩ := (exists_getElem?_succ_iff here).mpr
    ⟨inMemory, Nat.lt_of_succ_lt_succ fewer, response, obtained, leads⟩
  rw [visits] at there
  have within := (List.getElem?_eq_some_iff.mp there).1
  rw [List.length_append] at within
  exact absurd within (Nat.lt_irrefl _)

/-! ### Asking -/

/-- In a hop one endpoint is asked at most. -/
theorem count_ask_hopSteps_le (hop : Visit σ) :
    ((exchange.hopSteps verb timeout scope hop).map Step.kind).count .ask ≤ 1 := by
  have course := exchange.tracedHop_follows hop.plug verb hop.request timeout scope hop.began
  exact Nat.le_trans (course.kinds_isPrefix.sublist.count_le .ask)
    (Nat.le_of_eq hop.plug.count_ask_hopPlan)

/-- A hop that obtained a response has taken and passed all steps that its plug plans. -/
theorem passes_of_obtained {response : Message}
    (obtained : (exchange.visit plug verb request timeout scope world).obtained? = some response) :
    (exchange.hopSteps verb timeout scope
        (exchange.visit plug verb request timeout scope world)).map Step.kind = plug.hopPlan ∧
      ∀ step ∈ exchange.hopSteps verb timeout scope
        (exchange.visit plug verb request timeout scope world), step.verdict = .passes := by
  obtain ⟨served, answered⟩ := Visit.obtained?_eq_some_iff.mp obtained
  have course := exchange.tracedHop_follows plug verb request timeout scope world
  rw [plain_tracedHop_eq_visit, answered] at course
  exact course.passes_of_done nofun

/-- After the answer of the endpoint, only handlers run. -/
theorem after_of_mem_restSteps {visit : Visit σ} {step : Step σ}
    (member : step ∈ restSteps verb scope visit) : ∃ index, step.kind = .after index := by
  unfold restSteps at member
  split at member
  · rename_i ending _
    cases ending with
    | stopped response => cases member
    | answered served response =>
      have kind := (tracedAfter_follows _ _ _ _ _ _).kind_mem member
      obtain ⟨index, _, same⟩ := List.mem_map.mp kind
      exact ⟨index, same.symm⟩
  · cases member

/-- What obtained no response hands none to the handlers after the endpoint. -/
theorem restSteps_of_obtained_none {visit : Visit σ} (absent : visit.obtained? = none) :
    restSteps verb scope visit = [] := by
  unfold Visit.obtained? at absent
  unfold restSteps
  rcases ends : visit.ending with (response | ⟨served, response⟩) | panic | _ | _
  · rfl
  · rw [ends] at absent
    cases absent
  · rfl
  · rfl
  · rfl

/-- The answer that the steps of a hop tell is what the hop obtained. -/
theorem mem_answers_iff {hop : Visit σ} {response : Message}
    (member : hop ∈ exchange.visits plug verb request timeout scope world) :
    response ∈ (exchange.hopSteps verb timeout scope hop).filterMap Step.answer? ↔
      hop.obtained? = some response := by
  obtain ⟨_, _, _, rfl⟩ := exists_of_mem_visits hop member
  rw [obtained_of_hopSteps, Option.mem_toList]

/-- A hop whose steps tell no answer hands none to the handlers after the endpoint. -/
theorem restSteps_of_silent {hop : Visit σ}
    (member : hop ∈ exchange.visits plug verb request timeout scope world)
    (silent : (exchange.hopSteps verb timeout scope hop).filterMap Step.answer? = []) :
    restSteps verb scope hop = [] := by
  refine restSteps_of_obtained_none (Option.eq_none_iff_forall_ne_some.mpr ?_)
  intro response obtained
  rw [← mem_answers_iff member, silent] at obtained
  cases obtained

/-- No handler after the endpoint runs before the endpoint has answered. -/
theorem not_after_of_mem_hopSteps {hop : Visit σ} {step : Step σ}
    (member : step ∈ exchange.hopSteps verb timeout scope hop) (index : Nat) :
    step.kind ≠ .after index := by
  have planned := (exchange.tracedHop_follows _ _ _ _).kind_mem member
  intro isAfter
  rw [isAfter] at planned
  simp [Plug.hopPlan] at planned

/-- The trace of a call: the steps of its hops, and what follows the last answer. -/
theorem exists_trace_eq (exchange : Exchange σ) (plug : Plug σ) (verb : Verb) (timeout : Span)
    (scope : Scope) (world : World σ) (accepted : refusal? request = none) : ∃ last,
    (exchange.visits plug verb request timeout scope world).getLast? = some last ∧
      exchange.invokeLive plug verb request timeout scope world = conclude verb last scope ∧
      exchange.trace plug verb request timeout scope world
        = (exchange.visits plug verb request timeout scope world).flatMap
            (exchange.hopSteps verb timeout scope) ++ restSteps verb scope last := by
  obtain ⟨earlier, lastPlug, lastRequest, began, visits, ends, _⟩ :=
    exchange.exists_last_hop plug verb timeout scope world accepted
  refine ⟨_, by rw [visits, List.getLast?_concat], ends, ?_⟩
  have steps := congrArg Prod.snd
    (exchange.tracedLast_eq lastPlug verb lastRequest timeout scope began)
  rw [trace_eq, visits, stepsOf_append, List.flatMap_append, List.flatMap_singleton,
    List.append_assoc]
  exact congrArg _ steps

/-- A call of which every hop obtains a response asks one endpoint in each. -/
theorem count_ask_trace (accepted : refusal? request = none)
    (obtains : ∀ hop ∈ exchange.visits plug verb request timeout scope world,
      ∃ response, hop.obtained? = some response) :
    ((exchange.trace plug verb request timeout scope world).map Step.kind).count .ask
      = (exchange.visits plug verb request timeout scope world).length := by
  obtain ⟨last, _, _, trace⟩ := exchange.exists_trace_eq plug verb timeout scope world accepted
  have rest : ((restSteps verb scope last).map Step.kind).count .ask = 0 :=
    List.count_eq_zero.mpr fun member => by
      obtain ⟨step, isStep, isAsk⟩ := List.mem_map.mp member
      obtain ⟨index, isAfter⟩ := after_of_mem_restSteps isStep
      cases isAsk.symm.trans isAfter
  rw [trace, List.map_append, List.count_append, rest, Nat.add_zero, List.map_flatMap,
    List.count_flatMap]
  have ones : ∀ hop ∈ exchange.visits plug verb request timeout scope world,
      ((exchange.hopSteps verb timeout scope hop).map Step.kind).count .ask = 1 := by
    intro hop member
    obtain ⟨response, obtained⟩ := obtains hop member
    obtain ⟨_, _, _, rfl⟩ := exists_of_mem_visits hop member
    rw [(passes_of_obtained obtained).1]
    exact Plug.count_ask_hopPlan _
  refine (congrArg List.sum (List.map_congr_left ones)).trans ?_
  rw [List.map_const', List.sum_replicate_nat, Nat.mul_one]

end Exchange

/-! ### Endpoints that always redirect -/

/-- A handler passes every message on as a request. -/
def MessageHandler.Passes (handler : MessageHandler σ) : Prop :=
  ∀ verb uri served message scope world, ∃ passed,
    (handler verb uri served message scope world).1 = .done (some passed) ∧ passed.status = .ok

/-- **Always redirects**: whatever is asked at one of some places, an endpoint answers in time with
a redirect to follow, and it leads to one of these places. -/
def Registry.AlwaysRedirects (registry : Registry σ) (verb : Verb) (places : Uri → Prop) : Prop :=
  ∀ plug : Plug σ, places plug.uri → ∃ found, registry.find plug.uri = some found ∧
    ∀ request limit scope world, ∃ response target,
      (Activity.within limit (Activity.attempt (registry.deliver found plug verb request limit))
        scope world).1 = .done (some (.ok (.ok response))) ∧
        response.LeadsTo plug.uri target ∧ places target

namespace Exchange

theorem runBefore_of_passes (verb : Verb) (uri served : Uri) {handlers : List (MessageHandler σ)}
    (passes : ∀ handler ∈ handlers, MessageHandler.Passes handler) (request : Message)
    (scope : Scope) (world : World σ) : ∃ passed,
      (runBefore verb uri served handlers request scope world).1 = .done (.ok passed) := by
  induction handlers generalizing request world with
  | nil => exact ⟨request, rfl⟩
  | cons handler rest ih =>
    obtain ⟨first, others⟩ := List.forall_mem_cons.mp passes
    obtain ⟨passed, done, status⟩ := first verb uri served request scope world
    unfold runBefore
    rw [Activity.bind_of_done (Activity.attempt_of_done done)]
    simp only [if_pos status]
    exact ih others passed _

variable {exchange : Exchange σ} {plug : Plug σ} {verb : Verb} {request : Message}
  {timeout : Span} {scope : Scope} {world : World σ} {places : Uri → Prop}

/-- A hop to an endpoint that always redirects obtains a redirect. -/
theorem exists_obtained_of_alwaysRedirects
    (always : exchange.registry.AlwaysRedirects verb places)
    (passes : ∀ handler ∈ plug.before, MessageHandler.Passes handler) (place : places plug.uri) :
    ∃ response target,
      (exchange.visit plug verb request timeout scope world).obtained? = some response ∧
        response.LeadsTo plug.uri target ∧ places target := by
  obtain ⟨found, finds, answers⟩ := always plug place
  suffices ran : ∃ response target,
      (exchange.hop plug verb request timeout scope world).1
          = .done (.answered found.uri response) ∧
        response.LeadsTo plug.uri target ∧ places target by
    obtain ⟨response, target, ran, leads⟩ := ran
    rw [hop_eq_visit] at ran
    exact ⟨response, target, Visit.obtained?_eq_some_iff.mpr ⟨found.uri, ran⟩, leads⟩
  unfold hop
  rw [finds]
  simp only
  obtain ⟨jar, jarDone⟩ := exchange.jarOf_done plug scope world
  rw [Activity.bind_of_done jarDone]
  generalize (exchange.jarOf plug scope world).2 = opened
  obtain ⟨cookies, cookiesDone⟩ : ∃ cookies,
    (Activity.fetchCookies jar plug.uri scope opened).1 = .done cookies := ⟨_, rfl⟩
  rw [Activity.bind_of_done cookiesDone]
  generalize (Activity.fetchCookies jar plug.uri scope opened).2 = fetched
  obtain ⟨passed, passedDone⟩ := runBefore_of_passes verb plug.uri found.uri passes
    (plug.dress cookies request) scope fetched
  rw [Activity.bind_of_done passedDone]
  simp only
  generalize (runBefore _ _ _ _ _ scope fetched).2 = seen
  obtain ⟨response, target, answered, leads⟩ :=
    answers passed (min plug.timeout timeout) scope seen
  have answerDone : (exchange.answer found plug verb passed (min plug.timeout timeout) scope
      seen).1 = .done (.ok response) := Activity.bind_done_iff.mpr ⟨_, answered, rfl⟩
  rw [Activity.bind_of_done answerDone]
  exact ⟨response, target, Activity.bind_done_iff.mpr ⟨(), keepCookies_done _ _ _ _ _ _, rfl⟩,
    leads⟩

/-- **Endpoints that always redirect** are asked for as long as there are redirects to follow. -/
theorem exists_obtained_of_mem_visits
    (always : exchange.registry.AlwaysRedirects verb places)
    (passes : ∀ handler ∈ plug.before, MessageHandler.Passes handler) (place : places plug.uri) :
    ∀ hop ∈ exchange.visits plug verb request timeout scope world,
      ∃ response target, hop.obtained? = some response ∧ response.LeadsTo hop.plug.uri target := by
  have redirects : ∀ {index : Nat} {hop : Visit σ},
      (exchange.visits plug verb request timeout scope world)[index]? = some hop →
        places hop.plug.uri → ∃ response target,
          hop.obtained? = some response ∧ response.LeadsTo hop.plug.uri target ∧ places target := by
    intro index hop here place
    have befores : hop.plug.before = plug.before := (kept_of_getElem? here).2.2.1
    obtain ⟨hopPlug, _, _, rfl⟩ := exists_of_mem_visits hop (List.mem_of_getElem? here)
    have passesHere : ∀ handler ∈ hopPlug.before, MessageHandler.Passes handler := by
      intro handler member
      exact passes handler (befores ▸ member)
    exact exists_obtained_of_alwaysRedirects always passesHere place
  -- What a hop obtains leads to one of the places, and the next hop is to that one.
  have within : ∀ (index : Nat) (hop : Visit σ),
      (exchange.visits plug verb request timeout scope world)[index]? = some hop →
        places hop.plug.uri := by
    intro index
    induction index with
    | zero =>
      intro hop here
      obtain ⟨_, rfl⟩ := eq_of_getElem?_zero here
      exact place
    | succ index ih =>
      intro hop here
      obtain ⟨prior, next, replay, earlier, follows, rfl⟩ := exists_prior_of_getElem?_succ here
      obtain ⟨_, _, response, obtained, leads⟩ :=
        Visit.exists_next_iff.mp ⟨next, replay, follows, rfl⟩
      obtain ⟨response', target, obtained', leads', place'⟩ := redirects earlier (ih prior earlier)
      cases obtained.symm.trans obtained'
      exact leads.unique leads' ▸ place'
  intro hop member
  obtain ⟨index, here⟩ := List.getElem?_of_mem member
  obtain ⟨response, target, obtained, leads, _⟩ := redirects here (within index hop here)
  exact ⟨response, target, obtained, leads⟩

/-! ### Chains -/

/-- **What calls that follow redirects have in common.** -/
structure RedirectChain (exchange : Exchange σ) (plug : Plug σ) (verb : Verb) (request : Message)
    (timeout : Span) (scope : Scope) (world : World σ) (hops : List (Visit σ)) : Prop where
  /-- The first hop is to the place of the plug. -/
  first : ∃ hop, hops[0]? = some hop ∧ hop.plug.uri = plug.uri
  /-- After it, there are at most so many hops as the plug may follow redirects. -/
  length_le : hops.length ≤ plug.maxRedirects + 1
  /-- Each hop may follow one redirect less than the hop before it. -/
  budget : ∀ index hop, hops[index]? = some hop →
    hop.plug.maxRedirects = plug.maxRedirects - index
  /-- Another hop follows exactly if redirects are left, the request of the caller can be replayed
  and the hop obtained a redirect to follow; and that is where it leads. -/
  follows_iff : ∀ index hop target, hops[index]? = some hop →
    ((∃ next, hops[index + 1]? = some next ∧ next.plug.uri = target) ↔
      request.isCloneable = true ∧ 0 < plug.maxRedirects - index ∧
        ∃ response ∈ (exchange.hopSteps verb timeout scope hop).filterMap Step.answer?,
          response.LeadsTo hop.plug.uri target)
  /-- In a hop one endpoint is asked at most. -/
  asks_once : ∀ hop ∈ hops,
    ((exchange.hopSteps verb timeout scope hop).map Step.kind).count .ask ≤ 1
  /-- It is the one that serves the place of the hop, and it is asked with the verb of the call. -/
  asks : ∀ hop ∈ hops, ∀ asked outcome,
    Step.ask asked outcome ∈ exchange.hopSteps verb timeout scope hop →
      exchange.registry.find hop.plug.uri = some asked.found ∧ asked.verb = verb
  /-- No handler after the endpoint runs in a hop. -/
  not_after : ∀ hop ∈ hops, ∀ step ∈ exchange.hopSteps verb timeout scope hop, ∀ index,
    step.kind ≠ .after index
  /-- They run after the last hop, on what that obtained, and the call ends as they do; if it
  obtained nothing, they do not run at all. -/
  ending : ∃ last late, hops.getLast? = some last ∧
    exchange.trace plug verb request timeout scope world
      = hops.flatMap (exchange.hopSteps verb timeout scope) ++ late ∧
    ((exchange.hopSteps verb timeout scope last).filterMap Step.answer? = [] → late = []) ∧
    ∀ response ∈ (exchange.hopSteps verb timeout scope last).filterMap Step.answer?, ∃ served,
      late = (tracedAfter verb last.plug.uri served 0 plug.after response).events scope last.ended ∧
        exchange.invokeLive plug verb request timeout scope world
          = runAfter verb last.plug.uri served plug.after response scope last.ended
  /-- Where endpoints always redirect, every hop obtains a redirect and the call makes all hops that
  it may make. -/
  exhausts : ∀ places, exchange.registry.AlwaysRedirects verb places → places plug.uri →
    (∀ handler ∈ plug.before, MessageHandler.Passes handler) → request.isCloneable = true →
      ((exchange.trace plug verb request timeout scope world).map Step.kind).count .ask
          = plug.maxRedirects + 1 ∧
        hops.length = plug.maxRedirects + 1 ∧
        ∀ hop ∈ hops, ∃ target,
          ∃ response ∈ (exchange.hopSteps verb timeout scope hop).filterMap Step.answer?,
            response.LeadsTo hop.plug.uri target

/-- **Every call is a chain of redirects**, from the place of its plug to the hop that obtains none
to follow. -/
theorem visits_redirectChain (exchange : Exchange σ) (plug : Plug σ) (verb : Verb)
    (request : Message) (timeout : Span) (scope : Scope) (world : World σ)
    (accepted : refusal? request = none) :
    exchange.RedirectChain plug verb request timeout scope world
      (exchange.visits plug verb request timeout scope world) := by
  exact {
    first := by
      obtain ⟨rest, visits⟩ := exchange.exists_visits_cons plug verb timeout scope world accepted
      rw [visits]
      exact ⟨_, rfl, rfl⟩
    length_le := length_visits_le
    budget := fun index hop here => by
      have budget := (kept_of_getElem? here).1
      omega
    follows_iff := fun index hop target here => by
      rw [exists_getElem?_succ_iff here, Nat.sub_pos_iff_lt]
      simp only [mem_answers_iff (List.mem_of_getElem? here)]
    asks_once := fun hop _ => count_ask_hopSteps_le hop
    asks := fun hop member asked outcome asks => by
      obtain ⟨_, _, _, rfl⟩ := exists_of_mem_visits hop member
      cases tells_of_mem_hopSteps asks with
      | ask finds => exact ⟨finds, rfl⟩
    not_after := fun hop _ step member => not_after_of_mem_hopSteps member
    ending := by
      obtain ⟨last, isLast, ends, trace⟩ :=
        exchange.exists_trace_eq plug verb timeout scope world accepted
      have member := List.mem_of_getLast? isLast
      refine ⟨last, _, isLast, trace, restSteps_of_silent member, fun response given => ?_⟩
      obtain ⟨served, answered⟩ :=
        Visit.obtained?_eq_some_iff.mp ((mem_answers_iff member).mp given)
      obtain ⟨index, here⟩ := List.getElem?_of_mem member
      rw [ends, ← (kept_of_getElem? here).2.2.2.1]
      unfold restSteps conclude
      rw [answered]
      exact ⟨served, rfl, rfl⟩
    exhausts := fun places always place passes inMemory => by
      have redirected : ∀ hop ∈ exchange.visits plug verb request timeout scope world,
          ∃ response target, hop.obtained? = some response ∧
            response.LeadsTo hop.plug.uri target :=
        exists_obtained_of_mem_visits always passes place
      have length := length_visits_of_redirected accepted inMemory redirected
      refine ⟨(count_ask_trace accepted fun hop member => ?_).trans length, length,
        fun hop member => ?_⟩
      · obtain ⟨response, _, obtained, _⟩ := redirected hop member
        exact ⟨response, obtained⟩
      · obtain ⟨response, target, obtained, leads⟩ := redirected hop member
        exact ⟨target, response, (mem_answers_iff member).mpr obtained, leads⟩ }

/-! ### A call without an end -/

/-- The place that a wandering endpoint leads to. -/
def wanderPlace : Uri := Uri.ofPlace "mock" "host" ["on"]

/-- An endpoint that redirects to the same place, whatever it is asked. -/
def wanderEndpoint : Endpoint Unit :=
  { key := 0, name := "wander", score := fun uri => some (1, uri)
    delivery := .answers fun _ _ _ _ _ => return .ok (Message.redirect .found "mock://host/on") }

/-- Calls to the wandering endpoint. -/
def wanderExchange : Exchange Unit :=
  { registry := ⟨[wanderEndpoint]⟩, jar := .shared, settings := .standard }

/-- A plug that follows two redirects. -/
def wanderPlug : Plug Unit := { wanderExchange.plug wanderPlace with maxRedirects := 2 }

theorem wanderEndpoint_alwaysRedirects (verb : Verb) :
    wanderExchange.registry.AlwaysRedirects verb (· = wanderPlace) := by
  intro plug place
  have leads : (plug.uri.join "mock://host/on").toOption = some wanderPlace := by
    rw [place]
    decide +kernel
  refine ⟨{ endpoint := wanderEndpoint, uri := plug.uri, score := 1 }, rfl,
    fun request limit scope world => ⟨Message.redirect .found "mock://host/on", wanderPlace, rfl,
      ⟨by decide, "mock://host/on", by decide +kernel, toOption_eq_some_iff.mp leads⟩, rfl⟩⟩

/-- The wandering endpoint is asked three times. -/
theorem wander_redirectChain :
    ((wanderExchange.trace wanderPlug .get Message.ok (Span.ofSeconds 60) .outermost
      (World.initial 0 ())).map Step.kind).count .ask = 3 :=
  ((visits_redirectChain wanderExchange wanderPlug .get Message.ok (Span.ofSeconds 60) .outermost
    (World.initial 0 ()) rfl).exhausts (· = wanderPlace) (wanderEndpoint_alwaysRedirects .get) rfl
    (fun _ absent => nomatch absent) rfl).1

end Exchange

end Switchboard
