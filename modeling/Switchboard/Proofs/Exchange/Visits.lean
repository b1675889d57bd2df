import Switchboard.Proofs.Exchange.Steps
import Switchboard.Proofs.Plug.Redirect
/-!
The hops of a call, one by one.

`Exchange.tracedRun` is `Exchange.runWithin` with a note of every hop: with which plug and which
request it began, which steps it took, how it ended, and when; and with a note of every step after
the last hop. The hops that are noted are the visits of a call.

* `Exchange.plain_tracedInvoke`: the notes are all that was added to `Exchange.invokeLive`.
* `Exchange.tracedInvoke_of_last` and `Exchange.tracedInvoke_of_next`: the notes of a call are those
  of a first hop and, if a redirect leads on from it, those of the call that the redirect leads to.
  The budget does not stand in this, since a plug that follows a redirect knows how many more may
  follow (`Plug.maxRedirects_of_redirect`).
* `Exchange.visits_induction`: what holds of calls that make one hop, and carries over along
  redirects, holds of the visits of every call.
-/

namespace Switchboard

/-- A URI of a host and a path, and no more. -/
def Uri.ofPlace (scheme host : String) (items : List String) : Uri :=
  { scheme, authority := some { username := "", password := "", host, port := none }
    dotted := false, path := .segments items, query := none, fragment := none }

/-- A hop of a call. -/
structure Visit (σ : Type) where
  plug : Plug σ
  /-- The request that the hop began with. -/
  request : Message
  began : World σ
  ending : Ending HopEnd
  ended : World σ
  /-- The steps up to the answer of the endpoint. -/
  steps : List (Step σ)

variable {σ : Type}

/-- The visit that is told of a hop. -/
def Visit.of (plug : Plug σ) (request : Message) (began : World σ)
    (ran : (Ending HopEnd × World σ) × List (Step σ)) : Visit σ :=
  { plug, request, began, ending := ran.1.1, ended := ran.1.2, steps := ran.2 }

/-- What an endpoint was asked for, if the request got so far. -/
def Visit.asked (visit : Visit σ) : List (Asked σ) := visit.steps.filterMap Step.asked?

/-- The plug and the request that a redirect leads on to from a visit. -/
def Visit.next? (visit : Visit σ) : Option (Plug σ × Message) :=
  match visit.ending with
  | .done (.answered _ response) =>
    visit.plug.redirect? (Exchange.replayOf visit.plug visit.request) response
  | _ => none

theorem Visit.next?_congr {visit visit' : Visit σ} (plugs : visit.plug = visit'.plug)
    (requests : visit.request = visit'.request) (endings : visit.ending = visit'.ending) :
    visit.next? = visit'.next? := by
  unfold next?
  rw [plugs, requests, endings]

/-- What follows a visit follows an answer. -/
theorem Visit.exists_answer_of_next {visit : Visit σ} {next : Plug σ} {replay : Message}
    (follows : visit.next? = some (next, replay)) :
    ∃ served response, visit.ending = .done (.answered served response) ∧
      visit.plug.redirect? (Exchange.replayOf visit.plug visit.request) response
        = some (next, replay) := by
  unfold next? at follows
  split at follows
  · rename_i served response answered
    exact ⟨served, response, answered, follows⟩
  · cases follows

theorem Visit.maxRedirects_of_next {visit : Visit σ} {next : Plug σ} {replay : Message}
    (follows : visit.next? = some (next, replay)) :
    visit.plug.maxRedirects = next.maxRedirects + 1 := by
  obtain ⟨_, _, _, redirected⟩ := exists_answer_of_next follows
  exact Plug.maxRedirects_of_redirect redirected

/-- A note of a call: of a hop, or of a step after the last one. -/
inductive Note (σ : Type) where
  | hop (visit : Visit σ)
  | after (step : Step σ)

namespace Note

/-- The hop that a note tells of. -/
def visit? : Note σ → Option (Visit σ)
  | .hop visit => some visit
  | .after _ => none

/-- The steps that a note tells of. -/
def steps : Note σ → List (Step σ)
  | .hop visit => visit.steps
  | .after step => [step]

theorem filterMap_visit?_after (steps : List (Step σ)) :
    (steps.map Note.after).filterMap visit? = [] := by
  rw [List.filterMap_map, List.filterMap_eq_nil_iff]
  exact fun _ _ => rfl

theorem flatMap_steps_after (steps : List (Step σ)) :
    (steps.map Note.after).flatMap Note.steps = steps := by
  rw [List.flatMap_map]
  exact List.flatMap_singleton' steps

end Note

namespace Exchange

variable (exchange : Exchange σ)

/-! ### Running with notes -/

/-- Makes one hop, notes it, and goes on with `follow` where a redirect leads. -/
def tracedHopThen (verb : Verb) (timeout : Span)
    (follow : Option (Plug σ → Message → Logged (Note σ) σ Message)) (plug : Plug σ)
    (request : Message) : Logged (Note σ) σ Message :=
  match refusal? request with
  | some words => Logged.of (Activity.breakOff ⟨some words⟩)
  | none => do
    match ← Logged.gather (fun began ran => .hop (Visit.of plug request began ran))
      (exchange.tracedHop plug verb request timeout) with
    | .stopped response => return response
    | .answered served response =>
      match follow, plug.redirect? (replayOf plug request) response with
      | some follow, some (next, replay) => follow next replay
      | _, _ => Logged.rename .after (tracedRest verb plug (.answered served response))

/-- Makes hops, at most so many after the first one, and notes each of them. -/
def tracedRun (verb : Verb) (timeout : Span) : Nat → Plug σ → Message →
    Logged (Note σ) σ Message
  | 0 => exchange.tracedHopThen verb timeout none
  | budget + 1 => exchange.tracedHopThen verb timeout (some (tracedRun verb timeout budget))

/-- Makes a call and notes its hops. -/
def tracedInvoke (plug : Plug σ) (verb : Verb) (request : Message) (timeout : Span) :
    Logged (Note σ) σ Message :=
  exchange.tracedRun verb timeout plug.maxRedirects plug request

/-! ### The notes are all that was added -/

theorem plain_tracedHopThen (verb : Verb) (timeout : Span)
    (follow : Option (Plug σ → Message → Logged (Note σ) σ Message)) (plug : Plug σ)
    (request : Message) :
    (exchange.tracedHopThen verb timeout follow plug request).plain
      = exchange.hopThen verb timeout
          (follow.map fun follow next replay => (follow next replay).plain) plug request := by
  unfold tracedHopThen hopThen
  cases refusal? request with
  | some words => rfl
  | none =>
    simp only [Logged.plain_bind, Logged.plain_gather, plain_tracedHop]
    congr 1
    funext ending
    cases ending with
    | stopped response => rfl
    | answered served response =>
      have rest : (Logged.rename Note.after (tracedRest verb plug (.answered served response))).plain
          = runAfter verb plug.uri served plug.after response :=
        plain_tracedRest verb plug served response
      cases follow with
      | none => exact rest
      | some follow =>
        simp only [Option.map_some]
        cases plug.redirect? (replayOf plug request) response with
        | none => exact rest
        | some following => rfl

theorem plain_tracedRun (verb : Verb) (timeout : Span) (budget : Nat) : ∀ plug request,
    (exchange.tracedRun verb timeout budget plug request).plain
      = exchange.runWithin verb timeout budget plug request := by
  induction budget with
  | zero => exact exchange.plain_tracedHopThen verb timeout none
  | succ budget ih =>
    intro plug request
    refine (exchange.plain_tracedHopThen verb timeout _ plug request).trans ?_
    simp only [runWithin, Option.map_some, ih]

/-- **Without its notes, `tracedInvoke` is `invokeLive`.** -/
theorem plain_tracedInvoke (plug : Plug σ) (verb : Verb) (request : Message) (timeout : Span) :
    (exchange.tracedInvoke plug verb request timeout).plain
      = exchange.invokeLive plug verb request timeout :=
  exchange.plain_tracedRun verb timeout plug.maxRedirects plug request

/-! ### Visits -/

/-- The visit of one hop. -/
def visit (plug : Plug σ) (verb : Verb) (request : Message) (timeout : Span) (scope : Scope)
    (world : World σ) : Visit σ :=
  Visit.of plug request world (exchange.tracedHop plug verb request timeout scope world)

/-- The visits of a call, in order. -/
def visits (plug : Plug σ) (verb : Verb) (request : Message) (timeout : Span) (scope : Scope)
    (world : World σ) : List (Visit σ) :=
  ((exchange.tracedInvoke plug verb request timeout).events scope world).filterMap Note.visit?

/-- The end of a call whose last hop a visit is. -/
def conclude (verb : Verb) (visit : Visit σ) (scope : Scope) : Ending Message × World σ :=
  match visit.ending with
  | .done (.stopped response) => (.done response, visit.ended)
  | .done (.answered served response) =>
    runAfter verb visit.plug.uri served visit.plug.after response scope visit.ended
  | .panicked panic => (.panicked panic, visit.ended)
  | .expired => (.expired, visit.ended)
  | .endless => (.endless, visit.ended)

/-- The steps of a visit that no redirect follows, after the answer of the endpoint. -/
def restSteps (verb : Verb) (scope : Scope) (visit : Visit σ) : List (Step σ) :=
  match visit.ending with
  | .done ending => (tracedRest verb visit.plug ending).events scope visit.ended
  | _ => []

variable {exchange} {plug next : Plug σ} {verb : Verb} {request replay : Message}
  {timeout : Span} {scope : Scope} {world : World σ}

/-- A visit tells how its hop ran. -/
theorem hop_eq_visit : exchange.hop plug verb request timeout scope world
    = ((exchange.visit plug verb request timeout scope world).ending,
        (exchange.visit plug verb request timeout scope world).ended) := by
  rw [← plain_tracedHop]
  rfl

/-- What is no request makes no hop. -/
theorem tracedInvoke_of_refusal {words : String} (refused : refusal? request = some words) :
    exchange.tracedInvoke plug verb request timeout scope world
      = ((.panicked ⟨some words⟩, world), []) := by
  unfold tracedInvoke
  cases plug.maxRedirects <;> simp only [tracedRun, tracedHopThen, refused] <;> rfl

/-- **One hop of a call**: the call goes on where a redirect leads, or this hop was its last. -/
theorem tracedHopThen_eq (follow : Option (Plug σ → Message → Logged (Note σ) σ Message))
    (accepted : refusal? request = none) :
    exchange.tracedHopThen verb timeout follow plug request scope world =
      let visit := exchange.visit plug verb request timeout scope world
      match follow, visit.next? with
      | some follow, some (next, replay) =>
        ((follow next replay).plain scope visit.ended,
          .hop visit :: (follow next replay).events scope visit.ended)
      | _, _ => (conclude verb visit scope, .hop visit :: (restSteps verb scope visit).map .after) := by
  unfold tracedHopThen
  rw [accepted]
  refine (Logged.bind_apply _ _ scope world).trans ?_
  rw [Logged.plain_gather, Logged.events_gather]
  simp only [visit, Visit.next?, Visit.of, conclude, restSteps, Logged.plain]
  cases (exchange.tracedHop plug verb request timeout scope world).1.1 with
  | panicked panic => cases follow <;> rfl
  | expired => cases follow <;> rfl
  | endless => cases follow <;> rfl
  | done ending =>
    cases ending with
    | stopped response => cases follow <;> rfl
    | answered served response =>
      simp only [← plain_tracedRest]
      cases follow with
      | none => rfl
      | some follow =>
        cases plug.redirect? (replayOf plug request) response with
        | none => rfl
        | some following => rfl

/-- **A call whose first hop no redirect follows.** -/
theorem tracedInvoke_of_last (accepted : refusal? request = none)
    (last : (exchange.visit plug verb request timeout scope world).next? = none) :
    exchange.tracedInvoke plug verb request timeout scope world =
      let visit := exchange.visit plug verb request timeout scope world
      (conclude verb visit scope, .hop visit :: (restSteps verb scope visit).map .after) := by
  unfold tracedInvoke
  cases plug.maxRedirects with
  | zero => exact (tracedHopThen_eq none accepted).trans rfl
  | succ budget =>
    refine (tracedHopThen_eq _ accepted).trans ?_
    simp only [last]

/-- **A call whose first hop a redirect follows.** -/
theorem tracedInvoke_of_next (accepted : refusal? request = none)
    (follows : (exchange.visit plug verb request timeout scope world).next? = some (next, replay)) :
    exchange.tracedInvoke plug verb request timeout scope world =
      let visit := exchange.visit plug verb request timeout scope world
      (exchange.invokeLive next verb replay timeout scope visit.ended,
        .hop visit :: (exchange.tracedInvoke next verb replay timeout).events scope visit.ended) := by
  have budget : plug.maxRedirects = next.maxRedirects + 1 := Visit.maxRedirects_of_next follows
  unfold tracedInvoke
  rw [budget]
  refine (tracedHopThen_eq _ accepted).trans ?_
  simp only [follows]
  rw [plain_tracedRun]
  rfl

theorem invokeLive_of_refusal {words : String} (refused : refusal? request = some words) :
    exchange.invokeLive plug verb request timeout scope world = (.panicked ⟨some words⟩, world) := by
  rw [← plain_tracedInvoke]
  exact congrArg Prod.fst (tracedInvoke_of_refusal refused)

theorem invokeLive_of_last (accepted : refusal? request = none)
    (last : (exchange.visit plug verb request timeout scope world).next? = none) :
    exchange.invokeLive plug verb request timeout scope world
      = conclude verb (exchange.visit plug verb request timeout scope world) scope := by
  rw [← plain_tracedInvoke]
  exact congrArg Prod.fst (tracedInvoke_of_last accepted last)

theorem invokeLive_of_next (accepted : refusal? request = none)
    (follows : (exchange.visit plug verb request timeout scope world).next? = some (next, replay)) :
    exchange.invokeLive plug verb request timeout scope world
      = exchange.invokeLive next verb replay timeout scope
          (exchange.visit plug verb request timeout scope world).ended := by
  rw [← plain_tracedInvoke]
  exact congrArg Prod.fst (tracedInvoke_of_next accepted follows)

/-! ### Induction over visits -/

theorem visits_of_refusal {words : String} (refused : refusal? request = some words) :
    exchange.visits plug verb request timeout scope world = [] := by
  unfold visits Logged.events
  rw [tracedInvoke_of_refusal refused]
  rfl

theorem visits_of_last (accepted : refusal? request = none)
    (last : (exchange.visit plug verb request timeout scope world).next? = none) :
    exchange.visits plug verb request timeout scope world
      = [exchange.visit plug verb request timeout scope world] := by
  unfold visits Logged.events
  rw [tracedInvoke_of_last accepted last]
  exact congrArg (List.cons _) (Note.filterMap_visit?_after _)

theorem visits_of_next (accepted : refusal? request = none)
    (follows : (exchange.visit plug verb request timeout scope world).next? = some (next, replay)) :
    exchange.visits plug verb request timeout scope world
      = exchange.visit plug verb request timeout scope world
        :: exchange.visits next verb replay timeout scope
          (exchange.visit plug verb request timeout scope world).ended := by
  unfold visits Logged.events
  rw [tracedInvoke_of_next accepted follows]
  rfl

/-- What is a request makes a hop. -/
theorem exists_visits_cons (exchange : Exchange σ) (plug : Plug σ) (verb : Verb) (timeout : Span)
    (scope : Scope) (world : World σ) (accepted : refusal? request = none) : ∃ rest,
    exchange.visits plug verb request timeout scope world
      = exchange.visit plug verb request timeout scope world :: rest := by
  cases follows : (exchange.visit plug verb request timeout scope world).next? with
  | none => exact ⟨[], visits_of_last accepted follows⟩
  | some following => exact ⟨_, visits_of_next accepted follows⟩

/-- **Induction over the visits of a call**, along the redirects that it follows. -/
theorem visits_induction
    {motive : Plug σ → Message → World σ → List (Visit σ) → Prop}
    (refused : ∀ plug request world, refusal? request ≠ none → motive plug request world [])
    (last : ∀ plug request world, refusal? request = none →
      (exchange.visit plug verb request timeout scope world).next? = none →
      motive plug request world [exchange.visit plug verb request timeout scope world])
    (next : ∀ plug request world following replay, refusal? request = none →
      (exchange.visit plug verb request timeout scope world).next? = some (following, replay) →
      motive following replay (exchange.visit plug verb request timeout scope world).ended
        (exchange.visits following verb replay timeout scope
          (exchange.visit plug verb request timeout scope world).ended) →
      motive plug request world (exchange.visit plug verb request timeout scope world
        :: exchange.visits following verb replay timeout scope
          (exchange.visit plug verb request timeout scope world).ended)) :
    ∀ plug request world,
      motive plug request world (exchange.visits plug verb request timeout scope world) := by
  intro plug request world
  -- A plug that follows a redirect has one redirect less to follow.
  induction given : plug.maxRedirects using Nat.strongRecOn generalizing plug request world with
  | ind budget ih =>
    cases refusal : refusal? request with
    | some words =>
      rw [visits_of_refusal refusal]
      exact refused plug request world (by rw [refusal]; exact Option.some_ne_none _)
    | none =>
      cases follows : (exchange.visit plug verb request timeout scope world).next? with
      | none =>
        rw [visits_of_last refusal follows]
        exact last plug request world refusal follows
      | some following =>
        have fewer : following.1.maxRedirects < budget := by
          rw [← given]
          exact Nat.lt_of_succ_le (Nat.le_of_eq (Visit.maxRedirects_of_next follows).symm)
        rw [visits_of_next refusal follows]
        exact next plug request world following.1 following.2 refusal follows
          (ih following.1.maxRedirects fewer _ _ _ rfl)

/-- A call makes at most one hop more than its plug may follow redirects. -/
theorem length_visits_le :
    (exchange.visits plug verb request timeout scope world).length ≤ plug.maxRedirects + 1 := by
  refine visits_induction (motive := fun plug _ _ visits => visits.length ≤ plug.maxRedirects + 1)
    ?_ ?_ ?_ plug request world
  · exact fun plug _ _ _ => Nat.zero_le _
  · exact fun plug _ _ _ _ => Nat.le_add_left _ _
  · intro plug request world following replay _ follows fewer
    have budget : plug.maxRedirects = following.maxRedirects + 1 :=
      Visit.maxRedirects_of_next follows
    rw [budget]
    exact Nat.succ_le_succ fewer

/-- Without handlers after it, a call leaves the world as its last hop does. -/
theorem conclude_world {visit : Visit σ} (unseen : visit.plug.after = []) :
    (conclude verb visit scope).2 = visit.ended := by
  unfold conclude
  rw [unseen]
  split <;> rfl

/-! ### Visits by their number -/

/-- The first visit of a call is that of its first hop. -/
theorem eq_of_getElem?_zero {first : Visit σ}
    (here : (exchange.visits plug verb request timeout scope world)[0]? = some first) :
    refusal? request = none ∧ first = exchange.visit plug verb request timeout scope world := by
  cases refusal : refusal? request with
  | some words =>
    rw [visits_of_refusal refusal] at here
    cases here
  | none =>
    obtain ⟨rest, visits⟩ := exchange.exists_visits_cons plug verb timeout scope world refusal
    rw [visits] at here
    exact ⟨rfl, (Option.some.inj here).symm⟩

/-- Any other visit of a call is one of the call that a redirect leads to. -/
theorem exists_next_of_getElem?_succ {step : Nat} {reached : Visit σ}
    (here : (exchange.visits plug verb request timeout scope world)[step + 1]? = some reached) :
    refusal? request = none ∧ ∃ next replay,
      (exchange.visit plug verb request timeout scope world).next? = some (next, replay) ∧
      (exchange.visits next verb replay timeout scope
        (exchange.visit plug verb request timeout scope world).ended)[step]? = some reached := by
  cases refusal : refusal? request with
  | some words =>
    rw [visits_of_refusal refusal] at here
    cases here
  | none =>
    refine ⟨rfl, ?_⟩
    cases follows : (exchange.visit plug verb request timeout scope world).next? with
    | none =>
      rw [visits_of_last refusal follows] at here
      cases here
    | some following =>
      rw [visits_of_next refusal follows] at here
      exact ⟨following.1, following.2, rfl, here⟩

/-- A request that follows a redirect is a request. -/
theorem accepted_of_next (accepted : refusal? request = none)
    (follows : (exchange.visit plug verb request timeout scope world).next? = some (next, replay)) :
    refusal? replay = none := by
  obtain ⟨_, _, _, redirected⟩ := Visit.exists_answer_of_next follows
  rw [Plug.request_of_redirect redirected]
  split <;> exact accepted

/-- **What comes after a visit of a call** is the first hop of what the visit leads on to. -/
theorem getElem?_succ {step : Nat} {reached : Visit σ}
    (here : (exchange.visits plug verb request timeout scope world)[step]? = some reached) :
    (exchange.visits plug verb request timeout scope world)[step + 1]?
      = reached.next?.map fun following =>
          exchange.visit following.1 verb following.2 timeout scope reached.ended := by
  induction step generalizing plug request world with
  | zero =>
    obtain ⟨accepted, rfl⟩ := eq_of_getElem?_zero here
    cases follows : (exchange.visit plug verb request timeout scope world).next? with
    | none =>
      rw [visits_of_last accepted follows]
      rfl
    | some following =>
      obtain ⟨rest, later⟩ := exchange.exists_visits_cons following.1 verb timeout scope
        (exchange.visit plug verb request timeout scope world).ended
        (accepted_of_next accepted follows)
      rw [visits_of_next accepted follows, later]
      rfl
  | succ step ih =>
    obtain ⟨accepted, next, replay, follows, later⟩ := exists_next_of_getElem?_succ here
    rw [visits_of_next accepted follows]
    exact ih later

/-- Any visit but the first one comes after another, from which it is led to. -/
theorem exists_prior_of_getElem?_succ {step : Nat} {reached : Visit σ}
    (here : (exchange.visits plug verb request timeout scope world)[step + 1]? = some reached) :
    ∃ prior next replay,
      (exchange.visits plug verb request timeout scope world)[step]? = some prior ∧
        prior.next? = some (next, replay) ∧
        reached = exchange.visit next verb replay timeout scope prior.ended := by
  obtain ⟨within, _⟩ := List.getElem?_eq_some_iff.mp here
  have earlier := List.getElem?_eq_getElem (Nat.lt_of_succ_lt within)
  have later := getElem?_succ earlier
  rw [here] at later
  obtain ⟨⟨next, replay⟩, follows, same⟩ := Option.map_eq_some_iff.mp later.symm
  exact ⟨_, next, replay, earlier, follows, same.symm⟩

/-- Every hop of a call has what redirects leave as it is, and may follow one redirect less than the
hop before it. -/
theorem kept_of_getElem? {step : Nat} {reached : Visit σ}
    (here : (exchange.visits plug verb request timeout scope world)[step]? = some reached) :
    reached.plug.maxRedirects + step = plug.maxRedirects ∧ reached.plug.timeout = plug.timeout ∧
      reached.plug.before = plug.before ∧ reached.plug.after = plug.after ∧
      reached.plug.redirectPolicy = plug.redirectPolicy := by
  induction step generalizing reached with
  | zero =>
    obtain ⟨_, rfl⟩ := eq_of_getElem?_zero here
    exact ⟨rfl, rfl, rfl, rfl, rfl⟩
  | succ step ih =>
    obtain ⟨prior, next, replay, earlier, follows, rfl⟩ := exists_prior_of_getElem?_succ here
    obtain ⟨_, _, _, redirected⟩ := Visit.exists_answer_of_next follows
    obtain ⟨timeouts, befores, afters, policies⟩ := Plug.kept_by_redirect redirected
    obtain ⟨budget, sameTime, sameBefore, sameAfter, samePolicy⟩ := ih earlier
    have fewer : prior.plug.maxRedirects = next.maxRedirects + 1 :=
      Visit.maxRedirects_of_next follows
    refine ⟨?_, timeouts.trans sameTime, befores.trans sameBefore, afters.trans sameAfter,
      policies.trans samePolicy⟩
    show next.maxRedirects + (step + 1) = plug.maxRedirects
    omega

/-- **A call ends as its last hop does.** -/
theorem exists_last (exchange : Exchange σ) (plug : Plug σ) (verb : Verb) (timeout : Span)
    (scope : Scope) (world : World σ) (accepted : refusal? request = none) : ∃ earlier last,
    exchange.visits plug verb request timeout scope world = earlier ++ [last] ∧
      exchange.invokeLive plug verb request timeout scope world = conclude verb last scope := by
  refine visits_induction (motive := fun plug request world visits =>
    refusal? request = none → ∃ earlier last, visits = earlier ++ [last] ∧
      exchange.invokeLive plug verb request timeout scope world = conclude verb last scope)
    ?_ ?_ ?_ plug request world accepted
  · exact fun _ _ _ refused accepted => absurd accepted refused
  · intro plug request world accepted last _
    exact ⟨[], _, rfl, invokeLive_of_last accepted last⟩
  · intro plug request world following replay accepted follows later _
    obtain ⟨earlier, last, visits, ends⟩ := later (accepted_of_next accepted follows)
    rw [visits, invokeLive_of_next accepted follows]
    exact ⟨_ :: earlier, last, rfl, ends⟩

/-! ### What endpoints are asked for -/

/-- Every visit of a call is one hop of it. -/
theorem exists_of_mem_visits : ∀ visit ∈ exchange.visits plug verb request timeout scope world,
    ∃ plug request world, visit = exchange.visit plug verb request timeout scope world := by
  refine visits_induction (motive := fun _ _ _ visits => ∀ visit ∈ visits,
    ∃ plug request world, visit = exchange.visit plug verb request timeout scope world)
    ?_ ?_ ?_ plug request world
  · intro plug request world _ visit member
    cases member
  · intro plug request world _ _ visit member
    exact ⟨plug, request, world, List.mem_singleton.mp member⟩
  · intro plug request world following replay _ _ later visit member
    rcases List.mem_cons.mp member with first | other
    · exact ⟨plug, request, world, first⟩
    · exact later visit other

/-- The last hop of a call is one of a plug with the time and the handlers of the plug of the
call. -/
theorem exists_last_hop (exchange : Exchange σ) (plug : Plug σ) (verb : Verb) (timeout : Span)
    (scope : Scope) (world : World σ) (accepted : refusal? request = none) :
    ∃ earlier lastPlug lastRequest began,
      exchange.visits plug verb request timeout scope world
        = earlier ++ [exchange.visit lastPlug verb lastRequest timeout scope began] ∧
      exchange.invokeLive plug verb request timeout scope world
        = conclude verb (exchange.visit lastPlug verb lastRequest timeout scope began) scope ∧
      lastPlug.timeout = plug.timeout ∧ lastPlug.before = plug.before ∧
      lastPlug.after = plug.after := by
  obtain ⟨earlier, last, visits, ends⟩ :=
    exchange.exists_last plug verb timeout scope world accepted
  have member : last ∈ exchange.visits plug verb request timeout scope world := by
    rw [visits]
    exact List.mem_concat_self
  obtain ⟨step, here⟩ := List.getElem?_of_mem member
  obtain ⟨_, timeouts, befores, afters, _⟩ := kept_of_getElem? here
  obtain ⟨lastPlug, lastRequest, began, rfl⟩ := exists_of_mem_visits last member
  exact ⟨earlier, lastPlug, lastRequest, began, visits, ends, timeouts, befores, afters⟩

end Exchange

end Switchboard
