import Switchboard.Proofs.Activity.Clock
import Switchboard.Proofs.Exchange.Visits
import Switchboard.Proofs.Message.Memorize
import Switchboard.Proofs.Script.Mock
/-!
How long a call takes.

An endpoint is given the shorter of the time of the plug and the time of the caller, in every hop
anew. What is taken off for the hops before is only taken off the time for reading the body. So a
call may take the time of the caller once for each hop, but no longer than that time if its hops
together do not.

* `Exchange.hop_takes`: a hop takes at most the time that is given.
* `Exchange.invokeLive_now`: a call takes the time of its visits together.
* `Exchange.invokeWithin_in_time_iff`: with the body, it is done within the time of the caller, just
  if its visits together are.
-/

namespace Switchboard

variable {σ : Type}

/-- The endpoints of a registry keep to the clock: those that answer are timely. -/
def Registry.Timely (registry : Registry σ) : Prop :=
  ∀ endpoint ∈ registry.endpoints, ∀ answer, endpoint.delivery = .answers answer →
    ∀ plug verb uri request limit, (answer plug verb uri request limit).Timely

/-- The time that a visit took. -/
def Visit.duration (visit : Visit σ) : Span := visit.ended.now - visit.began.now

/-- The time that visits took together. -/
def Visit.together : List (Visit σ) → Span
  | [] => Span.zero
  | visit :: rest => visit.duration + together rest

/-- A call that is delivered to a registry that keeps to the clock is timely. -/
theorem Registry.Timely.deliver {registry : Registry σ} (timely : registry.Timely) {uri : Uri}
    {found : Match σ} (finds : registry.find uri = some found) (plug : Plug σ) (verb : Verb)
    (request : Message) (limit : Span) :
    (registry.deliver found plug verb request limit).Timely := by
  unfold Registry.deliver
  split
  · rename_i answer served routed
    obtain ⟨answering, listed, delivers⟩ := exists_endpoint_of_route finds routed
    exact timely answering listed answer delivers plug verb served request limit
  · exact .of_still (Activity.Still.pure _)
  · exact .of_still .spin

namespace Exchange

variable {exchange : Exchange σ} {plug : Plug σ} {verb : Verb} {request : Message}
  {timeout : Span} {scope : Scope} {world : World σ}

/-! ### One hop -/

theorem jarOf_still (exchange : Exchange σ) (plug : Plug σ) : (exchange.jarOf plug).Still := by
  unfold jarOf
  cases plug.jar with
  | some jar => exact .pure _
  | none => exact .bind .ambient fun _ => .pure _

theorem keepCookies_still (jar : JarName) (plug : Plug σ) (served : Uri) (response : Message) :
    (keepCookies jar plug served response).Still := by
  unfold keepCookies
  split
  · exact .pure _
  · exact .storeCookies _ _ _

/-- An endpoint that keeps to the clock answers within the time that is given. -/
theorem answer_takes (timely : exchange.registry.Timely) {uri : Uri} {found : Match σ}
    (finds : exchange.registry.find uri = some found) (limit : Span) :
    (exchange.answer found plug verb request limit).Takes limit := by
  unfold answer
  have delivery := (timely.deliver finds plug verb request limit).attempt
  refine (Activity.Takes.within delivery limit).before_still fun outcome => ?_
  split <;> exact .pure _

/-- **A hop without handlers takes at most the time that is given.** -/
theorem hop_takes (timely : exchange.registry.Timely) (unseen : plug.before = []) :
    (exchange.hop plug verb request timeout).Takes (min plug.timeout timeout) := by
  unfold hop
  cases finds : exchange.registry.find plug.uri with
  | none => exact .of_still (.pure _) _
  | some found =>
    simp only [unseen, runBefore]
    refine .after_still (jarOf_still exchange plug) fun jar => ?_
    refine .after_still (.fetchCookies jar plug.uri) fun cookies => ?_
    refine .after_still (.pure _) fun outcome => ?_
    cases outcome with
    | error response => exact .of_still (.pure _) _
    | ok request =>
      refine (answer_takes timely finds _).before_still fun outcome => ?_
      cases outcome with
      | error response => exact .pure _
      | ok response => exact .bind (keepCookies_still jar plug found.uri response) fun _ => .pure _

/-! ### A chain of hops -/

/-- A visit without handlers takes at most the time that is given, and not beyond the deadline. -/
theorem visit_ended (timely : exchange.registry.Timely) (unseen : plug.before = [])
    (reaches : scope.Reaches world.now) :
    let visit := exchange.visit plug verb request timeout scope world
    visit.ended.now.nanos = world.now.nanos + visit.duration.nanos ∧
      scope.Reaches visit.ended.now ∧ visit.duration ≤ min plug.timeout timeout := by
  have takes : (exchange.hop plug verb request timeout).Takes (min plug.timeout timeout) :=
    hop_takes timely unseen
  obtain ⟨forward, kept⟩ := takes.timely scope world reaches
  have short := takes.short scope world reaches
  rw [hop_eq_visit] at forward kept short
  simp only [Span.le_iff, Span.nanos_add] at forward short
  refine ⟨?_, kept, ?_⟩
  · show _ = world.now.nanos + (_ - world.now.nanos)
    omega
  · show _ - world.now.nanos ≤ _
    omega

/-- **A call takes the time of its visits together**, and each of them at most the time that is
given. -/
theorem invokeLive_now (timely : exchange.registry.Timely) (unseen : plug.before = [])
    (unseenAfter : plug.after = []) (reaches : scope.Reaches world.now) :
    let visits := exchange.visits plug verb request timeout scope world
    let left := (exchange.invokeLive plug verb request timeout scope world).2.now
    left.nanos = world.now.nanos + (Visit.together visits).nanos ∧ scope.Reaches left ∧
      ∀ visit ∈ visits, visit.duration ≤ min plug.timeout timeout := by
  revert unseen unseenAfter reaches
  refine visits_induction (motive := fun plug request world visits =>
    plug.before = [] → plug.after = [] → scope.Reaches world.now →
      (exchange.invokeLive plug verb request timeout scope world).2.now.nanos
        = world.now.nanos + (Visit.together visits).nanos ∧
      scope.Reaches (exchange.invokeLive plug verb request timeout scope world).2.now ∧
      ∀ visit ∈ visits, visit.duration ≤ min plug.timeout timeout) ?_ ?_ ?_ plug request world
  · intro plug request world refused _ _ reaches
    obtain ⟨words, refusal⟩ := Option.ne_none_iff_exists'.mp refused
    rw [invokeLive_of_refusal refusal]
    exact ⟨rfl, reaches, fun visit member => nomatch member⟩
  · intro plug request world accepted last unseen unseenAfter reaches
    obtain ⟨ended, kept, short⟩ := visit_ended timely unseen reaches
    rw [invokeLive_of_last accepted last, conclude_world unseenAfter]
    refine ⟨ended, kept, fun visit member => ?_⟩
    rw [List.mem_singleton.mp member]
    exact short
  · intro plug request world following replay accepted follows later unseen unseenAfter reaches
    obtain ⟨ended, kept, short⟩ := visit_ended timely unseen reaches
    obtain ⟨_, _, _, redirected⟩ := Visit.exists_answer_of_next follows
    obtain ⟨sameTime, sameBefore, sameAfter, _⟩ := Plug.kept_by_redirect redirected
    obtain ⟨rest, keptLater, shortLater⟩ :=
      later (sameBefore.trans unseen) (sameAfter.trans unseenAfter) kept
    rw [invokeLive_of_next accepted follows]
    refine ⟨?_, keptLater, fun visit member => ?_⟩
    · rw [rest, ended]
      exact Nat.add_assoc _ _ _
    · rcases List.mem_cons.mp member with first | other
      · rw [first]
        exact short
      · rw [← show following.timeout = plug.timeout from sameTime]
        exact shortLater visit other

/-! ### The body of the response -/

/-- Reading the body takes at most the time that is left. -/
theorem settle_takes (plug : Plug σ) (response : Message) (remaining : Span) :
    (settle plug response remaining).Takes remaining := by
  have inTime := response.memorize_spent_le plug.maxBytes remaining
  unfold settle
  rcases read : response.memorize plug.maxBytes remaining with ⟨result, memorized, spent⟩
  rw [read] at inTime
  refine ((Activity.Takes.wait spent).of_le inTime).before_still fun _ => ?_
  cases result with
  | ok done => exact .pure _
  | error fault => exact .pure _

/-- After the last hop, a call takes at most what is left of the time of the caller. -/
theorem invokeWithin_now
    (kept : scope.Reaches (exchange.invokeLive plug verb request timeout scope world).2.now) :
    let arrived := (exchange.invokeLive plug verb request timeout scope world).2.now
    let left := (exchange.invokeWithin plug verb request timeout scope world).2.now
    arrived ≤ left ∧ left ≤ arrived + (timeout - (arrived - world.now)) := by
  have unfolded : exchange.invokeWithin plug verb request timeout scope world
      = (exchange.invokeLive plug verb request timeout >>= fun response => do
          let arrived ← Activity.world
          settle plug response (timeout - (arrived.now - world.now))) scope world := rfl
  simp only [unfolded]
  by_cases done : ∃ response,
      (exchange.invokeLive plug verb request timeout scope world).1 = .done response
  · obtain ⟨response, done⟩ := done
    rw [Activity.bind_of_done done]
    have takes := settle_takes plug response
      (timeout - ((exchange.invokeLive plug verb request timeout scope world).2.now - world.now))
    exact ⟨(takes.timely scope _ kept).1, takes.short scope _ kept⟩
  · rw [(Activity.bind_of_not_done (not_exists.mp done)).1]
    exact ⟨Nat.le_refl _, Nat.le_add_right _ _⟩

/-- **A call is done within the time of the caller**, just if its visits together are. Each visit
takes at most that time, and there is at most one more of them than redirects that the plug may
follow. -/
theorem invokeWithin_in_time_iff (exchange : Exchange σ) (plug : Plug σ) (verb : Verb)
    (request : Message) (timeout : Span) (scope : Scope) (world : World σ)
    (timely : exchange.registry.Timely) (unseen : plug.before = []) (unseenAfter : plug.after = [])
    (reaches : scope.Reaches world.now) :
    let visits := exchange.visits plug verb request timeout scope world
    let left := (exchange.invokeWithin plug verb request timeout scope world).2.now
    (left ≤ world.now + timeout ↔ Visit.together visits ≤ timeout) ∧
      (∀ visit ∈ visits, visit.duration ≤ min plug.timeout timeout) ∧
      visits.length ≤ plug.maxRedirects + 1 := by
  intro visits left
  obtain ⟨arrived, kept, short⟩ := invokeLive_now timely unseen unseenAfter reaches
  obtain ⟨later, soon⟩ := invokeWithin_now kept
  change _ = _ + (Visit.together visits).nanos at arrived
  change _ ≤ left at later
  change left ≤ _ at soon
  simp only [Span.le_iff, Span.nanos_add, Span.nanos_sub] at later soon
  refine ⟨⟨fun inTime => ?_, fun inTime => ?_⟩, short, length_visits_le⟩
  · simp only [Span.le_iff, Span.nanos_add] at inTime ⊢
    omega
  · simp only [Span.le_iff, Span.nanos_add] at inTime ⊢
    omega

/-! ### Two slow hops -/

/-- An endpoint that takes its time twice: it redirects once, and then it answers. -/
def slowEndpoint : Endpoint Script.Trace :=
  { key := 0, name := "slow", score := Script.mockScore .null
    delivery := .answers (Script.mockAnswer "slow" 0
      [{ pause := some 60, action := .replies (Message.redirect .found "mock://host/next") none },
        { pause := some 60, action := .replies Message.ok none }]) }

/-- Calls to the slow endpoint. -/
def slowExchange : Exchange Script.Trace :=
  { registry := ⟨[slowEndpoint]⟩, jar := .shared, settings := .standard }

/-- A plug of the slow endpoint. -/
def slowPlug : Plug Script.Trace :=
  slowExchange.plug (Uri.ofPlace "mock" "host" ["first"])

/-- What a call to the slow endpoint leaves when it may take a number of milliseconds. -/
def slowCall (limit : Nat) : Ending Message × World Script.Trace :=
  slowExchange.invokeWithin slowPlug .get Message.ok (Span.ofMillis limit) .outermost
    (World.initial 0 .empty)

/-- Within 150 milliseconds there is time for both hops. -/
theorem slowCall_in_time :
    slowExchange.registry.Timely ∧ slowPlug.before = [] ∧ slowPlug.after = [] ∧
      Scope.outermost.Reaches (World.initial 0 Script.Trace.empty).now ∧
      (slowCall 150).2.now
        ≤ (World.initial 0 Script.Trace.empty).now + Span.ofMillis 150 := by
  have timely : slowExchange.registry.Timely := by
    intro endpoint member answer delivers
    rw [List.mem_singleton.mp member] at delivers
    cases delivers
    exact Script.mockAnswer_timely _ _ _
  have reaches : Scope.outermost.Reaches (World.initial 0 Script.Trace.empty).now :=
    fun deadline given => nomatch given
  have together : Visit.together (slowExchange.visits slowPlug .get Message.ok
      (Span.ofMillis 150) .outermost (World.initial 0 .empty)) ≤ Span.ofMillis 150 := by
    decide +kernel
  have inTime := (invokeWithin_in_time_iff slowExchange slowPlug .get Message.ok
    (Span.ofMillis 150) .outermost (World.initial 0 .empty) timely rfl rfl reaches).1.mpr together
  refine ⟨timely, rfl, rfl, reaches, ?_⟩
  unfold slowCall
  exact inTime

/-- **A call can take longer than the time of the caller**: within 100 milliseconds, each of two
hops takes 60. -/
theorem slowCall_late : (slowCall 100).2.now = Span.ofMillis 120 := by
  decide +kernel

end Exchange

end Switchboard
