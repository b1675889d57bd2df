import Switchboard.Proofs.Exchange.Course
/-!
What the steps of a hop tell.

A step tells with what its part of the call began and what came of it, and that is so: the handlers
and the endpoint were run on what the step says, and the outcome is theirs. What the endpoint
answered is what the hop obtained.

* `Step.Tells` says of a step that it is true, and `Exchange.tells_of_mem_hopSteps` and
  `Exchange.tells_of_mem_lastSteps` say so of the steps of hops.
* `Exchange.obtained_of_hopSteps`: what is answered in the steps of a visit is what the visit ends
  with.
-/

namespace Switchboard

variable {σ : Type}

/-- What an endpoint answered in a hop. -/
def HopEnd.answer? : HopEnd → Option Message
  | .stopped _ => none
  | .answered _ response => some response

/-- What a visit obtained from an endpoint. -/
def Visit.obtained? (visit : Visit σ) : Option Message :=
  match visit.ending with
  | .done ending => ending.answer?
  | _ => none

theorem Visit.obtained?_eq_some_iff {visit : Visit σ} {response : Message} :
    visit.obtained? = some response ↔
      ∃ served, visit.ending = .done (.answered served response) := by
  unfold obtained?
  rcases visit.ending with (other | ⟨served, other⟩) | panic | _ | _
  · simp [HopEnd.answer?]
  · simp [HopEnd.answer?]
  · simp
  · simp
  · simp

/-- **A step of a hop tells the truth**: it tells of the place, the request, the handlers and the
endpoint of the hop, and the outcome is theirs. -/
inductive Step.Tells (exchange : Exchange σ) (plug : Plug σ) (verb : Verb) (request : Message)
    (timeout : Span) (scope : Scope) : Step σ → Prop where
  | find : Tells exchange plug verb request timeout scope
      (.find plug.uri (exchange.registry.find plug.uri))
  | dress (cookies : List Cookie) : Tells exchange plug verb request timeout scope
      (.dress cookies request)
  | before {index : Nat} {handler : MessageHandler σ} {found : Match σ}
      (finds : exchange.registry.find plug.uri = some found)
      (runs : plug.before[index]? = some handler) (message : Message) (world : World σ) :
      Tells exchange plug verb request timeout scope (.before index message
        (Activity.attempt (handler verb plug.uri found.uri message) scope world).1)
  | ask {found : Match σ} {limit : Span} (finds : exchange.registry.find plug.uri = some found)
      (limits : limit = min plug.timeout timeout) (message : Message) (world : World σ) :
      Tells exchange plug verb request timeout scope
        (.ask { found, plug, verb, request := message, limit, scope, world }
          (Activity.within limit (Activity.attempt
            (exchange.registry.deliver found plug verb message limit)) scope world).1)
  | after {index : Nat} {handler : MessageHandler σ} {found : Match σ}
      (finds : exchange.registry.find plug.uri = some found)
      (runs : plug.after[index]? = some handler) (message : Message) (world : World σ) :
      Tells exchange plug verb request timeout scope (.after index message
        (Activity.attempt (handler verb plug.uri found.uri message) scope world).1)

namespace Exchange

/-! ### Steps tell the truth -/

theorem exists_of_mem_tracedBefore {verb : Verb} {uri served : Uri} {scope : Scope}
    {step : Step σ} {handlers : List (MessageHandler σ)} {index : Nat} {request : Message}
    {world : World σ}
    (member : step ∈ (tracedBefore verb uri served index handlers request).events scope world) :
    ∃ place handler message world, handlers[place]? = some handler ∧
      step = .before (index + place) message
        (Activity.attempt (handler verb uri served message) scope world).1 := by
  induction handlers generalizing index request world with
  | nil => cases member
  | cons handler rest ih =>
    unfold tracedBefore at member
    rcases Logged.mem_events_bind.mp member with here | ⟨outcome, _, later⟩
    · rw [Logged.events_watch] at here
      exact ⟨0, handler, request, world, rfl, List.mem_singleton.mp here⟩
    · rcases outcome with panic | (_ | request)
      · cases later
      · cases later
      · simp only at later
        split at later
        · obtain ⟨place, handler, message, world, runs, same⟩ := ih later
          rw [Nat.add_right_comm] at same
          exact ⟨place + 1, handler, message, world, runs, same⟩
        · cases later

theorem exists_of_mem_tracedAfter {verb : Verb} {uri served : Uri} {scope : Scope}
    {step : Step σ} {handlers : List (MessageHandler σ)} {index : Nat} {response : Message}
    {world : World σ}
    (member : step ∈ (tracedAfter verb uri served index handlers response).events scope world) :
    ∃ place handler message world, handlers[place]? = some handler ∧
      step = .after (index + place) message
        (Activity.attempt (handler verb uri served message) scope world).1 := by
  induction handlers generalizing index response world with
  | nil => cases member
  | cons handler rest ih =>
    unfold tracedAfter at member
    rcases Logged.mem_events_bind.mp member with here | ⟨outcome, _, later⟩
    · rw [Logged.events_watch] at here
      exact ⟨0, handler, response, world, rfl, List.mem_singleton.mp here⟩
    · rcases outcome with panic | (_ | response)
      · cases later
      · cases later
      · obtain ⟨place, handler, message, world, runs, same⟩ := ih later
        rw [Nat.add_right_comm] at same
        exact ⟨place + 1, handler, message, world, runs, same⟩

section

variable {exchange : Exchange σ} {plug : Plug σ} {verb : Verb} {request : Message}
  {timeout : Span} {scope : Scope} {world : World σ} {step : Step σ}

/-- Having an endpoint answer is a single step. -/
theorem eq_of_mem_tracedAnswer {found : Match σ} {limit : Span}
    (member : step ∈ (exchange.tracedAnswer found plug verb request limit).events scope world) :
    step = .ask { found, plug, verb, request, limit, scope, world }
      (Activity.within limit (Activity.attempt
        (exchange.registry.deliver found plug verb request limit)) scope world).1 := by
  unfold tracedAnswer at member
  rcases Logged.mem_events_bind.mp member with here | ⟨outcome, _, later⟩
  · rw [Logged.events_watch] at here
    exact List.mem_singleton.mp here
  · match outcome with
    | none => cases later
    | some (.error panic) => cases later
    | some (.ok (.error fault)) => cases later
    | some (.ok (.ok response)) => cases later

/-- **The steps of a hop up to the answer of the endpoint tell the truth.** -/
theorem tells_of_mem_hopSteps (member : step ∈ exchange.hopSteps verb timeout scope
      (exchange.visit plug verb request timeout scope world)) :
    step.Tells exchange plug verb request timeout scope := by
  change step ∈ (exchange.tracedHop plug verb request timeout).events scope world at member
  unfold tracedHop at member
  rw [Logged.events_note_bind] at member
  rcases List.mem_cons.mp member with rfl | later
  · exact .find
  cases finds : exchange.registry.find plug.uri with
  | none =>
    rw [finds] at later
    cases later
  | some found =>
    rw [finds] at later
    rcases Logged.mem_events_bind.mp later with none | ⟨jar, _, later⟩
    · cases none
    rcases Logged.mem_events_bind.mp later with none | ⟨cookies, _, later⟩
    · cases none
    rw [Logged.events_note_bind] at later
    rcases List.mem_cons.mp later with rfl | later
    · exact .dress cookies
    rcases Logged.mem_events_bind.mp later with before | ⟨outcome, _, later⟩
    · obtain ⟨place, handler, message, world, runs, rfl⟩ := exists_of_mem_tracedBefore before
      rw [Nat.zero_add]
      exact .before finds runs message world
    cases outcome with
    | error response => cases later
    | ok passed =>
      rcases Logged.mem_events_bind.mp later with ask | ⟨outcome, _, later⟩
      · rw [eq_of_mem_tracedAnswer ask]
        exact .ask finds rfl passed _
      · cases outcome with
        | error response => cases later
        | ok response =>
          rcases Logged.mem_events_bind.mp later with none | ⟨_, _, none⟩ <;> cases none

/-- **What an endpoint is asked for in a hop**: the endpoint is the one that serves the URI of the
plug, and the time is the shorter of that of the plug and that of the caller. -/
theorem of_mem_asked {asked : Asked σ}
    (member : asked ∈ (exchange.visit plug verb request timeout scope world).asked) :
    exchange.registry.find plug.uri = some asked.found ∧ asked.plug = plug ∧ asked.verb = verb ∧
      asked.limit = min plug.timeout timeout ∧ asked.scope = scope := by
  obtain ⟨step, isStep, asks⟩ := List.mem_filterMap.mp member
  cases tells_of_mem_hopSteps isStep with
  | ask finds limits message world =>
    cases asks
    exact ⟨finds, rfl, rfl, limits, rfl⟩
  | find | dress | before | after => cases asks

/-- The URI that a hop was answered for is the one that the endpoint was found with. -/
theorem exists_found_of_answered {served : Uri} {response : Message}
    (answered : (exchange.hop plug verb request timeout scope world).1
      = .done (.answered served response)) :
    ∃ found, exchange.registry.find plug.uri = some found ∧ served = found.uri := by
  unfold hop at answered
  cases finds : exchange.registry.find plug.uri with
  | none =>
    rw [finds] at answered
    cases answered
  | some found =>
    rw [finds] at answered
    obtain ⟨jar, _, answered⟩ := Activity.bind_done_iff.mp answered
    obtain ⟨cookies, _, answered⟩ := Activity.bind_done_iff.mp answered
    obtain ⟨outcome, _, answered⟩ := Activity.bind_done_iff.mp answered
    cases outcome with
    | error response => cases answered
    | ok passed =>
      obtain ⟨outcome, _, answered⟩ := Activity.bind_done_iff.mp answered
      cases outcome with
      | error response => cases answered
      | ok response =>
        obtain ⟨_, _, answered⟩ := Activity.bind_done_iff.mp answered
        cases answered
        exact ⟨found, rfl, rfl⟩

/-- **The steps of a hop that no redirect follows tell the truth.** -/
theorem tells_of_mem_lastSteps (member : step ∈ exchange.lastSteps verb timeout scope
      (exchange.visit plug verb request timeout scope world)) :
    step.Tells exchange plug verb request timeout scope := by
  change step ∈ (exchange.tracedLast plug verb request timeout).events scope world at member
  unfold tracedLast at member
  rcases Logged.mem_events_bind.mp member with early | ⟨ending, ended, late⟩
  · exact tells_of_mem_hopSteps early
  · rw [plain_tracedHop] at ended
    cases ending with
    | stopped response => cases late
    | answered served response =>
      obtain ⟨found, finds, rfl⟩ := exists_found_of_answered ended
      obtain ⟨place, handler, message, world, runs, rfl⟩ := exists_of_mem_tracedAfter late
      rw [Nat.zero_add]
      exact .after finds runs message world

end

variable (exchange : Exchange σ)

/-! ### Retelling steps -/

theorem retell_tracedBefore {δ : Type} {f : Step σ → Option δ}
    (silent : ∀ index request outcome, f (.before index request outcome) = none) (verb : Verb)
    (uri served : Uri) (handlers : List (MessageHandler σ)) :
    ∀ index request, Logged.retell f (tracedBefore verb uri served index handlers request)
      = Logged.of (runBefore verb uri served handlers request) := by
  induction handlers with
  | nil => exact fun _ _ => rfl
  | cons handler rest ih =>
    intro index request
    simp only [tracedBefore, runBefore, Logged.retell_bind, Logged.of_bind]
    rw [Logged.retell_watch_of_none _ fun _ _ _ => silent _ _ _]
    congr 1
    funext outcome
    rcases outcome with panic | (_ | request)
    · rfl
    · rfl
    · simp only
      split
      · exact ih (index + 1) request
      · rfl

/-- Having an endpoint answer tells what it answers. -/
theorem retell_answer_tracedAnswer (found : Match σ) (plug : Plug σ) (verb : Verb)
    (request : Message) (limit : Span) :
    Logged.retell Step.answer? (exchange.tracedAnswer found plug verb request limit)
      = Logged.report Except.toOption (exchange.answer found plug verb request limit) := by
  unfold tracedAnswer answer
  rw [Logged.retell_bind]
  refine Eq.trans ?_ (Logged.report_bind_of_done Step.given? _ _ fun outcome _ _ => ?_)
  · rw [Logged.retell_watch_of_report Step.given? _ (fun _ _ _ => rfl) (fun _ _ _ => rfl)
      (fun _ _ => rfl) fun _ _ => rfl]
    congr 1
    funext outcome
    rcases outcome with _ | (panic | (fault | response)) <;> rfl
  · rcases outcome with _ | (panic | (fault | response)) <;> exact ⟨_, rfl, rfl⟩

/-- What a hop obtains from an endpoint is what it ends with. -/
theorem retell_answer_tracedHop (plug : Plug σ) (verb : Verb) (request : Message)
    (timeout : Span) : Logged.retell Step.answer? (exchange.tracedHop plug verb request timeout)
      = Logged.report HopEnd.answer? (exchange.hop plug verb request timeout) := by
  -- The step that asks the endpoint is the only one of which something is retold.
  unfold tracedHop hop
  rw [Logged.retell_note_bind_of_none fun _ _ => rfl]
  cases exchange.registry.find plug.uri with
  | none => rfl
  | some found =>
    simp only [Logged.report_bind _ (exchange.jarOf plug), Logged.report_bind _
      (Activity.fetchCookies _ plug.uri)]
    refine (Logged.retell_bind _ _ _).trans (congrArg _ (funext fun jar => ?_))
    refine (Logged.retell_bind _ _ _).trans (congrArg _ (funext fun cookies => ?_))
    rw [Logged.retell_note_bind_of_none fun _ _ => rfl, Logged.retell_bind, Logged.report_bind,
      retell_tracedBefore fun _ _ _ => rfl]
    refine congrArg _ (funext fun outcome => ?_)
    cases outcome with
    | error response => rfl
    | ok request =>
      simp only
      rw [Logged.retell_bind, retell_answer_tracedAnswer,
        ← Logged.report_bind_of_done Except.toOption]
      · refine congrArg _ (funext fun outcome => ?_)
        cases outcome with
        | error response => rfl
        | ok response => exact (Logged.retell_bind _ _ _).trans (Logged.of_bind _ _).symm
      · intro outcome scope world
        cases outcome with
        | error response => exact ⟨_, rfl, rfl⟩
        | ok response =>
          refine ⟨.answered found.uri response, ?_, rfl⟩
          exact Activity.bind_done_iff.mpr ⟨(), keepCookies_done _ _ _ _ _ _, rfl⟩

/-! ### The steps of a visit -/

variable {exchange} {plug : Plug σ} {verb : Verb} {request : Message} {timeout : Span}
  {scope : Scope} {world : World σ}

/-- **What is answered in the steps of a visit** is what the visit ends with. -/
theorem obtained_of_hopSteps :
    (exchange.hopSteps verb timeout scope
        (exchange.visit plug verb request timeout scope world)).filterMap Step.answer?
      = (exchange.visit plug verb request timeout scope world).obtained?.toList := by
  refine (congrArg (fun act => act.events scope world)
    (exchange.retell_answer_tracedHop plug verb request timeout)).trans ?_
  unfold Logged.events Logged.report Visit.obtained?
  rw [hop_eq_visit]
  cases (exchange.visit plug verb request timeout scope world).ending <;> rfl

end Exchange

end Switchboard
