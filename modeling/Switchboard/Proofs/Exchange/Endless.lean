import Switchboard.Proofs.Activity.Returns
import Switchboard.Proofs.Endpoint.Delegation
import Switchboard.Proofs.Exchange.Obtained
/-!
Calls that go on for ever.

A deadline cuts off what waits. What an endpoint is asked for may be handed on for ever, or worked on
for ever without waiting, and then no deadline ends the call. If its handlers come to an end by
themselves, there is no other way for a call to go on for ever.

* `Logged.NotesEndless`: an activity goes on for ever just if one of its steps does.
* `Exchange.invokeLive_endless_iff`: a call goes on for ever just if an endpoint that is asked in one
  of its hops never lets go.
* `Exchange.invokeWithin_lets_go`: no call does, if nothing is handed on for ever and those who
  answer let go.
-/

namespace Switchboard

variable {σ α β : Type}

/-- A handler comes to an end by itself. -/
def MessageHandler.Ends (handler : MessageHandler σ) : Prop :=
  ∀ verb uri served message, (handler verb uri served message).Ends

/-! ### Steps that go on for ever -/

/-- What a step tells of goes on for ever. -/
def Step.IsEndless : Step σ → Prop
  | .find _ _ => False
  | .dress _ _ => False
  | .before _ _ outcome => outcome = .endless
  | .ask _ outcome => outcome = .endless
  | .after _ _ outcome => outcome = .endless

/-- **An activity notes what goes on for ever**: it does so itself just if one of its steps does. -/
def Logged.NotesEndless (act : Logged (Step σ) σ α) : Prop := ∀ scope world,
  (act.plain scope world).1 = .endless ↔ ∃ step ∈ act.events scope world, step.IsEndless

namespace Logged.NotesEndless

theorem pure (value : α) : NotesEndless (Pure.pure value : Logged (Step σ) σ α) :=
  fun _ _ => ⟨nofun, fun ⟨_, absent, _⟩ => nomatch absent⟩

/-- **A sequence notes what goes on for ever** if its parts do. -/
theorem bind {first : Logged (Step σ) σ α} {next : α → Logged (Step σ) σ β}
    (notes : first.NotesEndless) (later : ∀ value, (next value).NotesEndless) :
    (first >>= next).NotesEndless := by
  intro scope world
  rw [plain_bind, Activity.bind_endless_iff, notes scope world]
  constructor
  · rintro (⟨step, member, endless⟩ | ⟨value, done, goesOn⟩)
    · exact ⟨step, mem_events_bind.mpr (Or.inl member), endless⟩
    · obtain ⟨step, member, endless⟩ := (later value scope _).mp goesOn
      exact ⟨step, mem_events_bind.mpr (Or.inr ⟨value, done, member⟩), endless⟩
  · rintro ⟨step, member, endless⟩
    rcases mem_events_bind.mp member with early | ⟨value, done, late⟩
    · exact Or.inl ⟨step, early, endless⟩
    · exact Or.inr ⟨value, done, (later value scope _).mpr ⟨step, late, endless⟩⟩

theorem watch {event : Scope → World σ → Ending α → Step σ} (act : Activity σ α)
    (tells : ∀ scope world ending, (event scope world ending).IsEndless ↔ ending = .endless) :
    (Logged.watch event act).NotesEndless := by
  intro scope world
  rw [plain_watch, events_watch]
  simp only [List.mem_singleton, exists_eq_left]
  exact (tells scope world _).symm

theorem note {event : Scope → World σ → Step σ}
    (quiet : ∀ scope world, ¬ (event scope world).IsEndless) : (Logged.note event).NotesEndless := by
  refine fun scope world => ⟨nofun, fun ⟨step, member, endless⟩ => ?_⟩
  rw [List.mem_singleton.mp member] at endless
  exact absurd endless (quiet scope world)

/-- What is always done needs no note. -/
theorem of {act : Activity σ α} (done : ∀ scope world, ∃ value, (act scope world).1 = .done value) :
    (Logged.of act : Logged (Step σ) σ α).NotesEndless := by
  refine fun scope world => ⟨fun endless => ?_, fun ⟨_, absent, _⟩ => nomatch absent⟩
  obtain ⟨value, done⟩ := done scope world
  rw [plain_of, done] at endless
  cases endless

end Logged.NotesEndless

/-! ### What never lets go -/

/-- A call goes on for ever just if it is handed on for ever or its answer takes for ever. -/
theorem Registry.deliver_endless_iff {registry : Registry σ} {found : Match σ} {plug : Plug σ}
    {verb : Verb} {request : Message} {limit : Span} {scope : Scope} {world : World σ} :
    (registry.deliver found plug verb request limit scope world).1 = .endless ↔
      registry.route found = none ∨ ∃ answer uri, registry.route found = some (.answered answer uri) ∧
        (answer plug verb uri request limit scope world).1 = .endless := by
  unfold deliver
  rcases registry.route found with _ | ⟨answer, uri⟩ | uri
  · exact ⟨fun _ => Or.inl rfl, fun _ => rfl⟩
  · simp
  · constructor
    · nofun
    · rintro (nowhere | ⟨_, _, routed, _⟩)
      · cases nowhere
      · cases routed

/-- The endpoints that answer let go: none of them goes on for ever. -/
def Registry.LetsGo (registry : Registry σ) : Prop :=
  ∀ endpoint ∈ registry.endpoints, ∀ answer, endpoint.delivery = .answers answer →
    ∀ plug verb uri request limit scope world,
      (answer plug verb uri request limit scope world).1 ≠ .endless

namespace Exchange

/-- **An endpoint that is asked never lets go**: what it is asked for is handed on for ever, or worked
on for ever without waiting, within the deadline that it is given. -/
def NeverLetsGo (exchange : Exchange σ) (asked : Asked σ) : Prop :=
  (exchange.registry.deliver asked.found asked.plug asked.verb asked.request asked.limit asked.within
    asked.world).1 = .endless

variable {exchange : Exchange σ}

/-- An endpoint that is asked goes on for ever, whatever deadline it has, if it never lets go. -/
theorem answer_endless_iff {asked : Asked σ} :
    (Activity.within asked.limit (Activity.attempt (exchange.registry.deliver asked.found asked.plug
      asked.verb asked.request asked.limit)) asked.scope asked.world).1 = .endless ↔
      exchange.NeverLetsGo asked := by
  rw [Activity.within_endless_iff, Activity.attempt_endless_iff]
  rfl

/-! ### The parts of a call -/

theorem tracedBefore_notesEndless (verb : Verb) (uri served : Uri)
    (handlers : List (MessageHandler σ)) : ∀ index request,
      (tracedBefore verb uri served index handlers request).NotesEndless := by
  induction handlers with
  | nil => exact fun _ _ => .pure _
  | cons handler rest ih =>
    intro index request
    refine .bind (.watch _ fun _ _ _ => Iff.rfl) fun outcome => ?_
    rcases outcome with panic | (_ | request)
    · exact .pure _
    · exact .pure _
    · simp only
      split
      · exact ih (index + 1) request
      · exact .pure _

theorem tracedAfter_notesEndless (verb : Verb) (uri served : Uri)
    (handlers : List (MessageHandler σ)) : ∀ index response,
      (tracedAfter verb uri served index handlers response).NotesEndless := by
  induction handlers with
  | nil => exact fun _ _ => .pure _
  | cons handler rest ih =>
    intro index response
    refine .bind (.watch _ fun _ _ _ => Iff.rfl) fun outcome => ?_
    rcases outcome with panic | (_ | response)
    · exact .pure _
    · exact .pure _
    · exact ih (index + 1) response

theorem tracedAnswer_notesEndless (exchange : Exchange σ) (found : Match σ) (plug : Plug σ)
    (verb : Verb) (request : Message) (limit : Span) :
    (exchange.tracedAnswer found plug verb request limit).NotesEndless := by
  refine .bind (.watch _ fun _ _ _ => Iff.rfl) fun outcome => ?_
  rcases outcome with _ | (panic | (fault | response)) <;> exact .pure _

/-- **A hop notes what goes on for ever.** -/
theorem tracedHop_notesEndless (exchange : Exchange σ) (plug : Plug σ) (verb : Verb)
    (request : Message) (timeout : Span) :
    (exchange.tracedHop plug verb request timeout).NotesEndless := by
  unfold tracedHop
  refine .bind (.note fun _ _ => id) fun _ => ?_
  cases exchange.registry.find plug.uri with
  | none => exact .pure _
  | some found =>
    refine .bind (.of (exchange.jarOf_done plug)) fun jar => ?_
    refine .bind (.of fun _ _ => ⟨_, rfl⟩) fun cookies => ?_
    refine .bind (.note fun _ _ => id) fun _ => ?_
    refine .bind (tracedBefore_notesEndless _ _ _ _ _ _) fun outcome => ?_
    cases outcome with
    | error response => exact .pure _
    | ok request =>
      refine .bind (exchange.tracedAnswer_notesEndless _ _ _ _ _) fun outcome => ?_
      cases outcome with
      | error response => exact .pure _
      | ok response =>
        exact .bind (.of fun _ _ => ⟨(), keepCookies_done _ _ _ _ _ _⟩) fun _ => .pure _

/-- Handlers after the endpoint that come to an end do so together. -/
theorem runAfter_ends {verb : Verb} {uri served : Uri} {handlers : List (MessageHandler σ)}
    (ends : ∀ handler ∈ handlers, MessageHandler.Ends handler) (response : Message) (scope : Scope)
    (world : World σ) : (runAfter verb uri served handlers response scope world).1 ≠ .endless := by
  rw [← plain_tracedAfter verb uri served handlers 0 response]
  intro endless
  obtain ⟨step, member, goesOn⟩ :=
    (tracedAfter_notesEndless verb uri served handlers 0 response scope world).mp endless
  obtain ⟨place, handler, message, world, runs, rfl⟩ := exists_of_mem_tracedAfter member
  exact (ends handler (List.mem_of_getElem? runs) verb uri served message scope world).1
    (Activity.attempt_endless_iff.mp goesOn)

/-! ### Hops and calls -/

variable {plug : Plug σ} {verb : Verb} {request : Message} {timeout : Span} {scope : Scope}
  {world : World σ}

/-- **A hop goes on for ever** just if the endpoint that is asked in it never lets go. -/
theorem visit_endless_iff (endsBefore : ∀ handler ∈ plug.before, MessageHandler.Ends handler) :
    (exchange.visit plug verb request timeout scope world).ending = .endless ↔
      ∃ asked ∈ (exchange.visit plug verb request timeout scope world).asked,
        exchange.NeverLetsGo asked := by
  refine (exchange.tracedHop_notesEndless plug verb request timeout scope world).trans ?_
  constructor
  · rintro ⟨step, member, endless⟩
    have planned := (exchange.tracedHop_follows plug verb request timeout).kind_mem member
    cases tells_of_mem_hopSteps member with
    | find | dress => exact endless.elim
    | after => simp [Plug.hopPlan, Step.kind] at planned
    | before finds runs message world =>
      exact absurd (Activity.attempt_endless_iff.mp endless)
        (endsBefore _ (List.mem_of_getElem? runs) verb plug.uri _ message scope world).1
    | ask finds limits message world =>
      exact ⟨_, List.mem_filterMap.mpr ⟨_, member, rfl⟩, answer_endless_iff.mp endless⟩
  · rintro ⟨asked, member, never⟩
    obtain ⟨step, isStep, asks⟩ := List.mem_filterMap.mp member
    refine ⟨step, isStep, ?_⟩
    cases tells_of_mem_hopSteps isStep with
    | find | dress | before | after => cases asks
    | ask finds limits message world =>
      cases asks
      exact answer_endless_iff.mpr never

/-- A call whose last hop a visit is goes on for ever just if the visit does. -/
theorem conclude_endless_iff {visit : Visit σ}
    (endsAfter : ∀ handler ∈ visit.plug.after, MessageHandler.Ends handler) :
    (conclude verb visit scope).1 = .endless ↔ visit.ending = .endless := by
  unfold conclude
  rcases visit.ending with (response | ⟨served, response⟩) | panic | _ | _
  · exact ⟨nofun, nofun⟩
  · exact ⟨fun endless => absurd endless (runAfter_ends endsAfter response scope visit.ended), nofun⟩
  · exact ⟨nofun, nofun⟩
  · exact ⟨nofun, nofun⟩
  · exact ⟨fun _ => rfl, fun _ => rfl⟩

/-- What a redirect leads on from does not go on for ever. -/
theorem not_endless_of_next {visit : Visit σ} {following : Plug σ × Message}
    (follows : visit.next? = some following) : visit.ending ≠ .endless := by
  obtain ⟨_, _, answered, _⟩ := Visit.exists_answer_of_next follows
  rw [answered]
  nofun

/-- A call goes on for ever just if one of its hops does. -/
theorem invokeLive_endless_iff_exists_visit
    (endsAfter : ∀ handler ∈ plug.after, MessageHandler.Ends handler) :
    (exchange.invokeLive plug verb request timeout scope world).1 = .endless ↔
      ∃ visit ∈ exchange.visits plug verb request timeout scope world, visit.ending = .endless := by
  revert endsAfter
  refine visits_induction (motive := fun plug request world visits =>
    (∀ handler ∈ plug.after, MessageHandler.Ends handler) →
      ((exchange.invokeLive plug verb request timeout scope world).1 = .endless ↔
        ∃ visit ∈ visits, visit.ending = .endless)) ?_ ?_ ?_ plug request world
  · intro plug request world refused _
    obtain ⟨words, refusal⟩ := Option.ne_none_iff_exists'.mp refused
    rw [invokeLive_of_refusal refusal]
    exact ⟨nofun, fun ⟨_, absent, _⟩ => nomatch absent⟩
  · intro plug request world accepted last endsAfter
    rw [invokeLive_of_last accepted last, conclude_endless_iff endsAfter]
    simp only [List.mem_singleton, exists_eq_left]
  · intro plug request world following replay accepted follows later endsAfter
    obtain ⟨_, _, _, redirected⟩ := Visit.exists_answer_of_next follows
    have afters : following.after = plug.after := (Plug.kept_by_redirect redirected).2.2.1
    rw [invokeLive_of_next accepted follows, later (afters ▸ endsAfter)]
    simp only [List.mem_cons, exists_eq_or_imp, not_endless_of_next follows, false_or]

/-- **A call goes on for ever** just if an endpoint that is asked in one of its hops never lets
go. -/
theorem invokeLive_endless_iff
    (endsBefore : ∀ handler ∈ plug.before, MessageHandler.Ends handler)
    (endsAfter : ∀ handler ∈ plug.after, MessageHandler.Ends handler) :
    (exchange.invokeLive plug verb request timeout scope world).1 = .endless ↔
      ∃ visit ∈ exchange.visits plug verb request timeout scope world, ∃ asked ∈ visit.asked,
        exchange.NeverLetsGo asked := by
  rw [invokeLive_endless_iff_exists_visit endsAfter]
  refine exists_congr fun visit => and_congr_right fun member => ?_
  obtain ⟨step, here⟩ := List.getElem?_of_mem member
  have befores : visit.plug.before = plug.before := (kept_of_getElem? here).2.2.1
  obtain ⟨own, asked, began, rfl⟩ := exists_of_mem_visits visit member
  exact visit_endless_iff fun handler isHandler => endsBefore handler (befores ▸ isHandler)

theorem settle_ne_endless (plug : Plug σ) (live : Message) (remaining : Span) (scope : Scope)
    (world : World σ) : (settle plug live remaining scope world).1 ≠ .endless := by
  unfold settle
  rcases live.memorize plug.maxBytes remaining with ⟨result, memorized, spent⟩
  intro endless
  rcases Activity.bind_endless_iff.mp endless with waits | ⟨_, _, reads⟩
  · exact Activity.wait_ne_endless _ _ _ waits
  · cases result with
    | ok read => cases reads
    | error fault => cases reads

/-- Reading the body of a response comes to an end, so that a call goes on for ever just if it does
so before. -/
theorem invokeWithin_endless_iff :
    (exchange.invokeWithin plug verb request timeout scope world).1 = .endless ↔
      (exchange.invokeLive plug verb request timeout scope world).1 = .endless := by
  constructor
  · intro endless
    change ((exchange.invokeLive plug verb request timeout >>= _) scope world).1 = _ at endless
    rcases Activity.bind_endless_iff.mp endless with live | ⟨live, _, settles⟩
    · exact live
    · exact absurd settles (settle_ne_endless plug live _ _ _)
  · exact Activity.bind_of_endless

/-- **No call goes on for ever** where no call is handed on for ever and the endpoints that answer
let go. -/
theorem invokeWithin_lets_go (settles : exchange.registry.Settles)
    (letsGo : exchange.registry.LetsGo)
    (endsBefore : ∀ handler ∈ plug.before, MessageHandler.Ends handler)
    (endsAfter : ∀ handler ∈ plug.after, MessageHandler.Ends handler) :
    (exchange.invokeWithin plug verb request timeout scope world).1 ≠ .endless := by
  rw [Ne, invokeWithin_endless_iff, invokeLive_endless_iff endsBefore endsAfter]
  rintro ⟨visit, member, asked, isAsked, never⟩
  obtain ⟨own, given, began, rfl⟩ := exists_of_mem_visits visit member
  have finds := (of_mem_asked isAsked).1
  rcases Registry.deliver_endless_iff.mp never with nowhere | ⟨answer, uri, routed, endless⟩
  · obtain ⟨route, steps, leads⟩ := settles _ _ finds
    exact Registry.route_eq_none_iff.mp nowhere route steps leads
  · obtain ⟨endpoint, listed, delivers⟩ := Registry.exists_endpoint_of_route finds routed
    exact letsGo endpoint listed answer delivers _ _ _ _ _ _ _ endless

section Unseen

variable {found : Match σ} (unseen : plug.before = [])
  (finds : exchange.registry.find plug.uri = some found)
  (never : ∀ request limit scope world,
    (exchange.registry.deliver found plug verb request limit scope world).1 = .endless)

include unseen finds never

/-- A hop to an endpoint that never lets go goes on for ever, if no handler comes before it. -/
theorem hop_of_neverLetsGo :
    (exchange.hop plug verb request timeout scope world).1 = .endless := by
  unfold hop
  rw [finds]
  obtain ⟨jar, named⟩ := exchange.jarOf_done plug scope world
  refine Activity.bind_endless_iff.mpr (Or.inr ⟨jar, named, ?_⟩)
  refine Activity.bind_endless_iff.mpr (Or.inr ⟨_, rfl, ?_⟩)
  rw [unseen]
  refine Activity.bind_endless_iff.mpr (Or.inr ⟨_, rfl, ?_⟩)
  -- The first part that is left is the answer of the endpoint.
  refine Activity.bind_of_endless (Activity.bind_of_endless ?_)
  exact Activity.within_endless_iff.mpr (Activity.attempt_endless_iff.mpr (never _ _ _ _))

/-- **A call to an endpoint that never lets go** goes on for ever, if no handler comes before the
endpoint. -/
theorem invokeWithin_of_neverLetsGo (accepted : refusal? request = none) :
    (exchange.invokeWithin plug verb request timeout scope world).1 = .endless := by
  have ending : (exchange.visit plug verb request timeout scope world).ending = .endless := by
    have hop : (exchange.hop plug verb request timeout scope world).1 = .endless :=
      hop_of_neverLetsGo unseen finds never
    rw [hop_eq_visit] at hop
    exact hop
  have last : (exchange.visit plug verb request timeout scope world).next? = none := by
    unfold Visit.next?
    rw [ending]
  rw [invokeWithin_endless_iff, invokeLive_of_last accepted last]
  unfold conclude
  simp only [ending]

end Unseen

end Exchange

end Switchboard
