import Switchboard.Endpoint.Local
import Switchboard.Proofs.Dispatcher.StageRuns
import Switchboard.Proofs.Exchange.Obtained
/-!
What callers from outside can run.

A dispatcher behind a local endpoint grants access by the URI of the plug that asks. A redirect gives
the plug another URI, and if that one is local, whoever follows the redirect is granted what callers
in the same process are.

* `Exchange.Runs` says that a stage of a dispatcher runs in a visit; by
  `Exchange.answer_of_route` the stages are those that run when the endpoint is asked.
* `Exchange.exists_guarded_run_iff`: a stage that is not for everyone runs just in the visits with a
  local URI that get inside.
* `Exchange.outsiders_run_public_stages_iff`: a call from outside runs nothing but stages for
  everyone, just if none of the redirects that it follows leads inside.
-/

namespace Switchboard

variable {σ : Type}

/-- The stages that a dispatcher runs for a URI when it is asked as an endpoint. -/
def Asked.stageRuns (asked : Asked σ) (dispatcher : Dispatcher σ) (uri : Uri) :
    List (StageRun σ) :=
  dispatcher.stageRuns asked.verb uri asked.request (Endpoint.grantedTo asked.plug.uri) asked.within
    asked.world

/-- Says whether a caller in the same process who asks for this would run an internal feature. -/
def Asked.opensInside (asked : Asked σ) (dispatcher : Dispatcher σ) (uri : Uri) : Bool :=
  match dispatcher.gate asked.verb uri asked.request .internal with
  | (.admitted feature _ _, spent) =>
    decide (feature.access = .internal ∧ asked.within.Reaches (asked.world.now + spent))
  | (.refused _, _) => false

/-! ### Access -/

theorem Access.permits_anyone_iff {access : Access} :
    Access.anyone.permits access = true ↔ access = .anyone := by
  cases access <;> decide

theorem Access.permits_internal_iff {access : Access} :
    Access.internal.permits access = true ↔ access ≠ .owner := by
  cases access <;> decide

theorem Access.eq_internal {access : Access} (guarded : access ≠ .anyone)
    (notOwner : access ≠ .owner) : access = .internal := by
  cases access with
  | anyone => exact absurd rfl guarded
  | internal => rfl
  | owner => exact absurd rfl notOwner

theorem Endpoint.grantedTo_of_isLocal {uri : Uri} (isLocal : uri.isLocal = true) :
    grantedTo uri = .internal := by
  unfold grantedTo
  rw [if_pos isLocal]

theorem Endpoint.grantedTo_of_not_isLocal {uri : Uri} (isPublic : uri.isLocal = false) :
    grantedTo uri = .anyone := by
  unfold grantedTo
  rw [if_neg (by rw [isPublic]; exact Bool.false_ne_true)]

/-- No feature that needs more than internal access runs for what an endpoint is asked. -/
theorem Asked.access_ne_owner {asked : Asked σ} {dispatcher : Dispatcher σ} {uri : Uri}
    {run : StageRun σ} (member : run ∈ asked.stageRuns dispatcher uri) :
    run.feature.access ≠ .owner := by
  obtain ⟨feature, context, memorized, spent, admitted, _, rfl, _⟩ :=
    Dispatcher.of_mem_stageRuns member
  obtain ⟨_, permitted, _⟩ := Dispatcher.gate_admitted_iff.mp admitted
  cases isLocal : asked.plug.uri.isLocal with
  | true =>
    rw [Endpoint.grantedTo_of_isLocal isLocal] at permitted
    exact Access.permits_internal_iff.mp permitted
  | false =>
    rw [Endpoint.grantedTo_of_not_isLocal isLocal] at permitted
    rw [Access.permits_anyone_iff.mp permitted]
    exact Access.noConfusion

/-- **A stage that is not for everyone** runs just for callers by a local URI who get inside. -/
theorem Asked.exists_guarded_run_iff {asked : Asked σ} {dispatcher : Dispatcher σ} {uri : Uri} :
    (∃ run ∈ asked.stageRuns dispatcher uri, run.feature.access ≠ .anyone) ↔
      asked.plug.uri.isLocal = true ∧ asked.opensInside dispatcher uri = true := by
  constructor
  · rintro ⟨run, member, guarded⟩
    have notOwner := access_ne_owner member
    obtain ⟨feature, context, memorized, spent, admitted, reaches, rfl, _⟩ :=
      Dispatcher.of_mem_stageRuns member
    have isLocal : asked.plug.uri.isLocal = true := by
      refine Bool.not_eq_false _ ▸ fun isPublic => guarded ?_
      rw [Endpoint.grantedTo_of_not_isLocal isPublic] at admitted
      exact Access.permits_anyone_iff.mp (Dispatcher.gate_admitted_iff.mp admitted).2.1
    refine ⟨isLocal, ?_⟩
    rw [Endpoint.grantedTo_of_isLocal isLocal] at admitted
    unfold opensInside
    rw [admitted]
    exact decide_eq_true ⟨Access.eq_internal guarded notOwner, reaches⟩
  · rintro ⟨isLocal, opens⟩
    unfold opensInside at opens
    split at opens
    · rename_i feature context memorized spent admitted
      obtain ⟨isInternal, reaches⟩ := of_decide_eq_true opens
      rw [← Endpoint.grantedTo_of_isLocal isLocal] at admitted
      obtain ⟨run, member, same, _⟩ := Dispatcher.exists_mem_stageRuns admitted reaches
      refine ⟨run, member, ?_⟩
      rw [same, isInternal]
      exact Access.noConfusion
    · cases opens

namespace Exchange

variable (exchange : Exchange σ)

/-! ### Stages that run in a visit -/

/-- What an endpoint is asked for in a visit gets to a dispatcher, with a URI. -/
def GetsTo (dispatcher : Dispatcher σ) (visit : Visit σ) (asked : Asked σ) (uri : Uri) : Prop :=
  asked ∈ visit.asked ∧ exchange.registry.route asked.found = some (.answered dispatcher.answerer uri)

/-- A stage of a dispatcher runs in a visit. -/
def Runs (dispatcher : Dispatcher σ) (visit : Visit σ) (run : StageRun σ) : Prop :=
  ∃ asked uri, exchange.GetsTo dispatcher visit asked uri ∧ run ∈ asked.stageRuns dispatcher uri

/-- A visit asks a dispatcher for an internal feature that would run for callers inside. -/
def GetsInside (dispatcher : Dispatcher σ) (visit : Visit σ) : Prop :=
  ∃ asked uri, exchange.GetsTo dispatcher visit asked uri ∧
    asked.opensInside dispatcher uri = true

variable {exchange} {dispatcher : Dispatcher σ} {plug : Plug σ} {verb : Verb} {request : Message}
  {timeout : Span} {scope : Scope} {world : World σ}

/-- **The stages that are told of an endpoint are those that run** when it is asked: its answer
leaves the world as the dispatcher does, run with its notes. -/
theorem answer_of_route {asked : Asked σ} {uri : Uri}
    (routed : exchange.registry.route asked.found = some (.answered dispatcher.answerer uri)) :
    (exchange.answer asked.found asked.plug asked.verb asked.request asked.limit asked.scope
        asked.world).2
      = ((dispatcher.loggedDispatch asked.verb uri asked.request
          (Endpoint.grantedTo asked.plug.uri)).plain asked.within asked.world).2 := by
  unfold answer
  rw [Activity.bind_world_of_still (by intro outcome scope world; split <;> rfl),
    Activity.within_world, Activity.attempt_world, Dispatcher.plain_loggedDispatch]
  unfold Registry.deliver
  rw [routed]
  exact Activity.bind_world_of_still (fun _ _ _ => rfl) _ _

/-- In a visit, a stage that is not for everyone runs just if the URI is local and the visit gets
inside. -/
theorem exists_guarded_run_iff {visit : Visit σ}
    (member : visit ∈ exchange.visits plug verb request timeout scope world) :
    (∃ run, exchange.Runs dispatcher visit run ∧ run.feature.access ≠ .anyone) ↔
      visit.plug.uri.isLocal = true ∧ exchange.GetsInside dispatcher visit := by
  obtain ⟨plug, request, world, rfl⟩ := exists_of_mem_visits visit member
  have samePlug : ∀ {asked uri}, exchange.GetsTo dispatcher
      (exchange.visit plug verb request timeout scope world) asked uri → asked.plug = plug :=
    fun gets => (of_mem_asked gets.1).2.1
  constructor
  · rintro ⟨run, ⟨asked, uri, gets, ran⟩, guarded⟩
    obtain ⟨isLocal, opens⟩ := Asked.exists_guarded_run_iff.mp ⟨run, ran, guarded⟩
    rw [samePlug gets] at isLocal
    exact ⟨isLocal, asked, uri, gets, opens⟩
  · rintro ⟨isLocal, asked, uri, gets, opens⟩
    have alsoLocal : asked.plug.uri.isLocal = true := by
      rw [samePlug gets]
      exact isLocal
    obtain ⟨run, ran, guarded⟩ := Asked.exists_guarded_run_iff.mpr ⟨alsoLocal, opens⟩
    exact ⟨run, ⟨asked, uri, gets, ran⟩, guarded⟩

/-! ### Calls from outside -/

/-- The first visit of a call is made with its own plug. -/
theorem plug_of_mem_visits {visit : Visit σ}
    (member : visit ∈ exchange.visits plug verb request timeout scope world) :
    visit.plug = plug ∨ visit ∈ (exchange.visits plug verb request timeout scope world).tail := by
  cases listed : exchange.visits plug verb request timeout scope world with
  | nil =>
    rw [listed] at member
    cases member
  | cons first later =>
    rw [listed] at member
    rcases List.mem_cons.mp member with same | isLater
    · obtain ⟨_, isFirst⟩ := eq_of_getElem?_zero (by rw [listed]; rfl)
      rw [same, isFirst]
      exact Or.inl rfl
    · exact Or.inr isLater

/-- **A call from outside runs nothing but stages for everyone**, just if none of the redirects that
it follows leads to a local URI and inside. What needs more than internal access never runs. -/
theorem outsiders_run_public_stages_iff (exchange : Exchange σ) (dispatcher : Dispatcher σ)
    (plug : Plug σ) (verb : Verb) (request : Message) (timeout : Span) (scope : Scope)
    (world : World σ) (outside : plug.uri.isLocal = false) :
    ((∀ visit ∈ exchange.visits plug verb request timeout scope world,
        ∀ run, exchange.Runs dispatcher visit run → run.feature.access = .anyone) ↔
      ∀ visit ∈ (exchange.visits plug verb request timeout scope world).tail,
        visit.plug.uri.isLocal = true → ¬ exchange.GetsInside dispatcher visit) ∧
    ∀ visit ∈ exchange.visits plug verb request timeout scope world,
      ∀ run, exchange.Runs dispatcher visit run → run.feature.access ≠ .owner := by
  refine ⟨⟨fun runsPublic visit later isLocal inside => ?_, fun noneInside visit member run ran => ?_⟩,
    fun visit _ run ⟨asked, uri, _, ran⟩ => Asked.access_ne_owner ran⟩
  · have member := List.mem_of_mem_tail later
    obtain ⟨run, ran, guarded⟩ := (exists_guarded_run_iff member).mpr ⟨isLocal, inside⟩
    exact guarded (runsPublic visit member run ran)
  · by_cases guarded : run.feature.access = .anyone
    · exact guarded
    · obtain ⟨isLocal, inside⟩ := (exists_guarded_run_iff member).mp ⟨run, ran, guarded⟩
      rcases plug_of_mem_visits member with same | later
      · rw [same, outside] at isLocal
        cases isLocal
      · exact absurd inside (noneInside visit later isLocal)

/-! ### A redirect that leads inside -/

/-- A feature of one segment that answers with a message. -/
def replyFeature (access : Access) (segment : String) (message : Message) : Feature Unit :=
  { service := "office", verb := none, access, description := none
    signature := { written := segment, places := [.constant segment], extent := .atMost 0 }
    prologues := [], epilogues := [], counter := { place := "", number := 0 }
    main := { name := segment, plan := ⟨[]⟩, handler := fun _ => return .ok message } }

/-- A dispatcher with a feature for callers in the same process and one for everyone, which
redirects to it. -/
def officeDispatcher : Dispatcher Unit :=
  { place := "", settings := { maxBytes := 1024, bodyTimeout := Span.ofSeconds 60 }
    registered := 2
    features := [replyFeature .internal "files" (Message.okText "secret"),
      replyFeature .anyone "lobby" (Message.redirect .found "local://office/files")] }

/-- A host that is served under an address of the web, too. -/
def officeHost : LocalHost :=
  { name := "office", uri := Uri.ofPlace "local" "office" []
    aliases := [Uri.ofPlace "http" "office.example" []] }

/-- Calls to the office. -/
def officeExchange : Exchange Unit :=
  { registry := ⟨[Endpoint.localHost 0 officeHost officeDispatcher]⟩, jar := .shared
    settings := .standard }

/-- A plug for an address of the office in the web. -/
def streetPlug (segment : String) : Plug Unit :=
  officeExchange.plug (Uri.ofPlace "http" "office.example" [segment])

/-- The visits of a call from the street. -/
def streetVisits (segment : String) : List (Visit Unit) :=
  officeExchange.visits (streetPlug segment) .get Message.ok (Span.ofSeconds 60) .outermost
    (World.initial 0 ())

/-- Nobody on the street reads the files by asking for them. -/
theorem files_run_public_stages :
    (streetPlug "files").uri.isLocal = false ∧
      ∀ visit ∈ streetVisits "files", ∀ run,
        officeExchange.Runs officeDispatcher visit run → run.feature.access = .anyone := by
  have outside : (streetPlug "files").uri.isLocal = false := by decide +kernel
  have alone : (streetVisits "files").tail.isEmpty = true := by decide +kernel
  refine ⟨outside, (outsiders_run_public_stages_iff officeExchange officeDispatcher
    (streetPlug "files") .get Message.ok (Span.ofSeconds 60) .outermost (World.initial 0 ())
    outside).1.mpr fun visit later => ?_⟩
  change visit ∈ (streetVisits "files").tail at later
  rw [List.isEmpty_iff.mp alone] at later
  cases later

theorem officeExchange_route {uri : Uri} {found : Match Unit}
    (finds : officeExchange.registry.find uri = some found) :
    officeExchange.registry.route found = some (.answered officeDispatcher.answerer found.uri) := by
  have same := List.mem_singleton.mp (Registry.endpoint_mem_of_find finds)
  exact Registry.route_of_answers (by rw [same]; rfl)

/-- **Whoever asks for the lobby reads the files**: the call starts outside, and a stage of the
internal feature runs in it. -/
theorem lobby_leads_inside :
    (streetPlug "lobby").uri.isLocal = false ∧
      ∃ visit ∈ streetVisits "lobby", ∃ run,
        officeExchange.Runs officeDispatcher visit run ∧ run.feature.access = .internal := by
  have opened : (streetVisits "lobby").any (fun visit => visit.plug.uri.isLocal &&
      visit.asked.any fun asked => asked.opensInside officeDispatcher asked.found.uri) = true := by
    decide +kernel
  obtain ⟨visit, member, opens⟩ := List.any_eq_true.mp opened
  obtain ⟨isLocal, inside⟩ := Bool.and_eq_true_iff.mp opens
  obtain ⟨asked, isAsked, opens⟩ := List.any_eq_true.mp inside
  have routed : officeExchange.registry.route asked.found
      = some (.answered officeDispatcher.answerer asked.found.uri) := by
    obtain ⟨plug, request, world, rfl⟩ := exists_of_mem_visits visit member
    exact officeExchange_route (of_mem_asked isAsked).1
  obtain ⟨run, ran, guarded⟩ := (exists_guarded_run_iff member).mpr
    ⟨isLocal, asked, asked.found.uri, ⟨isAsked, routed⟩, opens⟩
  have notOwner : run.feature.access ≠ .owner := by
    obtain ⟨_, _, _, isRun⟩ := ran
    exact Asked.access_ne_owner isRun
  exact ⟨by decide +kernel, visit, member, run, ran, Access.eq_internal guarded notOwner⟩

end Exchange

end Switchboard
