import Switchboard.Proofs.Activity.Frame
import Switchboard.Proofs.Cookie.History
import Switchboard.Proofs.Exchange.Obtained
import Switchboard.Proofs.Script.Mock
/-!
What calls do with a jar.

A jar is shared by calls, one after the other, each of many hops. Endpoints and handlers may use the
jar as well, but like anyone else they only write to it, read it and clear it. So whatever was asked
of the jar by whomever is a history of it, and what a plug attaches to a request in a hop is what a
jar gives after such a history.

What counts for that are hosts and paths. The scheme of a scope has no part in it: what is set by a
host of the same process goes to a host of the same name on the web.

* `World.UsesJar` says that nothing else happened to a jar between two worlds.
* `Exchange.invokeWithin_keeps`: this is so of every call.
* `Exchange.attaches_what_covers`: what a plug attaches has a scope that covers the URI of the plug.
-/

namespace Switchboard

variable {σ : Type}

/-! ### Uses of jars -/

/-- Nothing happened to a jar but that it was written to, read and cleared. -/
def World.UsesJar (name : JarName) (before after : World σ) : Prop :=
  ∃ history, after.jars name = (before.jars name).run history

instance (name : JarName) : World.Frame (World.UsesJar (σ := σ) name) where
  refl _ := ⟨[], rfl⟩
  trans first middle last := by
    rintro ⟨earlier, toMiddle⟩ ⟨later, toLast⟩
    refine ⟨earlier ++ later, ?_⟩
    rw [toLast, toMiddle, Jar.run_append]
  tick _ _ := ⟨[], rfl⟩

theorem World.usesJar_after {name : JarName} (world : World σ) (jar : JarName) (call : Jar.Call) :
    world.UsesJar name { world with
      jars := fun other =>
        if other = jar then (world.jars jar).after world.date call else world.jars other } := by
  by_cases same : name = jar
  · refine ⟨[(world.date, call)], ?_⟩
    subst same
    simp [Jar.run]
  · exact ⟨[], if_neg same⟩

namespace Activity

variable {name : JarName}

theorem Keeps.fetchCookies (jar : JarName) (uri : Uri) :
    (fetchCookies jar uri : Activity σ (List Cookie)).Keeps (World.UsesJar name) :=
  fun _ world => world.usesJar_after jar (.fetch uri)

theorem Keeps.storeCookies (jar : JarName) (cookies : List Cookie) (source : Uri) :
    (storeCookies jar cookies source : Activity σ Unit).Keeps (World.UsesJar name) :=
  fun _ world => world.usesJar_after jar (.update cookies source)

end Activity

/-! ### Calls -/

/-- The endpoints of a registry keep a frame. -/
def Registry.Keeps (registry : Registry σ) (related : World σ → World σ → Prop) : Prop :=
  ∀ endpoint ∈ registry.endpoints, ∀ answer, endpoint.delivery = .answers answer →
    ∀ plug verb uri request limit, (answer plug verb uri request limit).Keeps related

/-- The handlers of a plug keep a frame. -/
def Plug.Keeps (plug : Plug σ) (related : World σ → World σ → Prop) : Prop :=
  ∀ handler ∈ plug.before ++ plug.after, ∀ verb uri served message,
    (handler verb uri served message).Keeps related

theorem Registry.Keeps.deliver {related : World σ → World σ → Prop} [World.Frame related]
    {registry : Registry σ} (keeps : registry.Keeps related) {uri : Uri} {found : Match σ}
    (finds : registry.find uri = some found) (plug : Plug σ) (verb : Verb) (request : Message)
    (limit : Span) : (registry.deliver found plug verb request limit).Keeps related := by
  unfold Registry.deliver
  split
  · rename_i answer served routed
    obtain ⟨answering, listed, delivers⟩ := exists_endpoint_of_route finds routed
    exact keeps answering listed answer delivers plug verb served request limit
  · exact .pure _
  · exact .spin

theorem Plug.Keeps.of_redirect {related : World σ → World σ → Prop} {plug next : Plug σ}
    {copy : Option Message} {response replay : Message} (keeps : plug.Keeps related)
    (redirected : plug.redirect? copy response = some (next, replay)) : next.Keeps related := by
  obtain ⟨-, befores, afters, -⟩ := Plug.kept_by_redirect redirected
  unfold Plug.Keeps
  rwa [befores, afters]

namespace Exchange

variable {exchange : Exchange σ} {name : JarName} {plug : Plug σ} {verb : Verb} {uri served : Uri}
  {request : Message} {timeout : Span} {scope : Scope} {world : World σ}

theorem runBefore_keeps {related : World σ → World σ → Prop} [World.Frame related]
    {handlers : List (MessageHandler σ)}
    (keeps : ∀ handler ∈ handlers, ∀ verb uri served message,
      (handler verb uri served message).Keeps related) (verb : Verb) (uri served : Uri)
    (request : Message) : (runBefore verb uri served handlers request).Keeps related := by
  induction handlers generalizing request with
  | nil => exact .pure _
  | cons handler rest ih =>
    refine .bind (keeps handler (by simp) verb uri served request).attempt fun outcome => ?_
    rcases outcome with panic | (_ | seen)
    · exact .pure _
    · exact .pure _
    · by_cases ok : seen.status = .ok
      · simp only [if_pos ok]
        exact ih (fun other member => keeps other (List.mem_cons_of_mem _ member)) seen
      · simp only [if_neg ok]
        exact .pure _

theorem runAfter_keeps {related : World σ → World σ → Prop} [World.Frame related]
    {handlers : List (MessageHandler σ)}
    (keeps : ∀ handler ∈ handlers, ∀ verb uri served message,
      (handler verb uri served message).Keeps related) (verb : Verb) (uri served : Uri)
    (response : Message) : (runAfter verb uri served handlers response).Keeps related := by
  induction handlers generalizing response with
  | nil => exact .pure _
  | cons handler rest ih =>
    refine .bind (keeps handler (by simp) verb uri served response).attempt fun outcome => ?_
    rcases outcome with panic | (_ | seen)
    · exact .pure _
    · exact .pure _
    · exact ih (fun other member => keeps other (List.mem_cons_of_mem _ member)) seen

theorem answer_keeps {related : World σ → World σ → Prop} [World.Frame related]
    (keeps : exchange.registry.Keeps related) {found : Match σ}
    (finds : exchange.registry.find uri = some found) (plug : Plug σ) (verb : Verb)
    (request : Message) (limit : Span) :
    (exchange.answer found plug verb request limit).Keeps related := by
  unfold answer
  have delivered := (keeps.deliver finds plug verb request limit).attempt.within limit
  refine .bind delivered fun outcome => ?_
  rcases outcome with _ | (panic | (fault | response)) <;> exact .pure _

theorem jarOf_keeps {related : World σ → World σ → Prop} [World.Frame related]
    (exchange : Exchange σ) (plug : Plug σ) : (exchange.jarOf plug).Keeps related := by
  unfold jarOf
  cases plug.jar with
  | some jar => exact .pure _
  | none => exact .bind .ambient fun _ => .pure _

/-- A hop uses a jar as its endpoint and its handlers do. -/
theorem hop_keeps (keeps : exchange.registry.Keeps (World.UsesJar name))
    (handlers : plug.Keeps (World.UsesJar name)) (verb : Verb) (request : Message)
    (timeout : Span) : (exchange.hop plug verb request timeout).Keeps (World.UsesJar name) := by
  unfold hop
  cases finds : exchange.registry.find plug.uri with
  | none => exact .pure _
  | some found =>
    have befores := runBefore_keeps
      fun handler member => handlers handler (List.mem_append_left _ member)
    refine .bind (exchange.jarOf_keeps plug) fun jar => ?_
    refine .bind (.fetchCookies jar plug.uri) fun cookies => ?_
    refine .bind (befores verb plug.uri found.uri _) fun outcome => ?_
    cases outcome with
    | error response => exact .pure _
    | ok request =>
      refine .bind (answer_keeps keeps finds plug verb request _) fun outcome => ?_
      cases outcome with
      | error response => exact .pure _
      | ok response =>
        refine .bind ?_ fun _ => .pure _
        unfold keepCookies
        split
        · exact .pure _
        · exact .storeCookies jar _ _

/-- A hop and what follows use a jar as the endpoint, the handlers and what follows do. -/
theorem hopThen_keeps {follow : Option (Plug σ → Message → Activity σ Message)}
    (keeps : exchange.registry.Keeps (World.UsesJar name))
    (later : ∀ go, follow = some go → ∀ plug request, plug.Keeps (World.UsesJar name) →
      (go plug request).Keeps (World.UsesJar name))
    (handlers : plug.Keeps (World.UsesJar name)) :
    (exchange.hopThen verb timeout follow plug request).Keeps (World.UsesJar name) := by
  have lastKeeps : ∀ (uri served : Uri) (response : Message),
      (runAfter verb uri served plug.after response).Keeps (World.UsesJar name) :=
    runAfter_keeps (fun handler member => handlers handler (List.mem_append_right _ member)) verb
  unfold hopThen
  split
  · exact .breakOff _
  · refine .bind (hop_keeps keeps handlers verb request timeout) fun ending => ?_
    cases ending with
    | stopped response => exact .pure _
    | answered served response =>
      cases follow with
      | none => exact lastKeeps plug.uri served response
      | some go =>
        cases redirected : plug.redirect? (replayOf plug request) response with
        | none =>
          simp only [redirected]
          exact lastKeeps plug.uri served response
        | some following =>
          simp only [redirected]
          exact later go rfl following.1 following.2 (handlers.of_redirect redirected)

theorem runWithin_keeps (keeps : exchange.registry.Keeps (World.UsesJar name)) (budget : Nat) :
    ∀ plug request, plug.Keeps (World.UsesJar name) →
      (exchange.runWithin verb timeout budget plug request).Keeps (World.UsesJar name) := by
  induction budget with
  | zero => exact fun plug request handlers => hopThen_keeps keeps nofun handlers
  | succ budget ih =>
    intro plug request handlers
    refine hopThen_keeps keeps (fun go isGo => ?_) handlers
    rw [← Option.some.inj isGo]
    exact ih

/-- **A call uses a jar as its endpoints and its handlers do**: it reads the jar, and it writes to
it what it received. -/
theorem invokeWithin_keeps (keeps : exchange.registry.Keeps (World.UsesJar name))
    (handlers : plug.Keeps (World.UsesJar name)) :
    (exchange.invokeWithin plug verb request timeout).Keeps (World.UsesJar name) := by
  unfold invokeWithin
  refine .bind .world fun started => ?_
  refine .bind (runWithin_keeps keeps plug.maxRedirects plug request handlers) fun live => ?_
  refine .bind .world fun arrived => ?_
  unfold settle
  refine .bind (.wait _) fun _ => ?_
  split <;> exact .pure _

/-! ### Hops of calls -/

/-- The world in which a hop begins is one that the hops before it lead to. -/
theorem usesJar_began (keeps : exchange.registry.Keeps (World.UsesJar name))
    (handlers : plug.Keeps (World.UsesJar name)) :
    ∀ visit ∈ exchange.visits plug verb request timeout scope world,
      world.UsesJar name visit.began := by
  revert handlers
  -- By induction on the chain: the next hop begins where this one leaves off.
  refine visits_induction (motive := fun plug _ world visits =>
    plug.Keeps (World.UsesJar name) → ∀ visit ∈ visits, world.UsesJar name visit.began)
    ?_ ?_ ?_ plug request world
  · exact fun _ _ _ _ _ visit member => nomatch member
  · intro plug request world _ _ _ visit member
    rw [List.mem_singleton.mp member]
    exact ⟨[], rfl⟩
  · intro plug request world following replay _ follows later handlers visit member
    rcases List.mem_cons.mp member with first | other
    · rw [first]
      exact ⟨[], rfl⟩
    · obtain ⟨_, _, _, redirected⟩ := Visit.exists_answer_of_next follows
      have hop := hop_keeps keeps handlers verb request timeout scope world
      rw [hop_eq_visit] at hop
      exact trans_of (World.UsesJar name) hop
        (later (handlers.of_redirect redirected) visit other)

/-- The jar of a plug within a scope. -/
def jarName (exchange : Exchange σ) (plug : Plug σ) (scope : Scope) : JarName :=
  plug.jar.getD (scope.ambient.getD exchange.jar)

theorem jarOf_apply (exchange : Exchange σ) (plug : Plug σ) (scope : Scope) (world : World σ) :
    exchange.jarOf plug scope world = (.done (exchange.jarName plug scope), world) := by
  unfold jarOf jarName
  cases plug.jar <;> rfl

/-- **What a plug is given to dress a request with** in a hop: the cookies that its jar gives for
its URI. -/
theorem dress_mem_hopSteps_iff {cookies : List Cookie} {given : Message} :
    Step.dress cookies given ∈ exchange.hopSteps verb timeout scope
        (exchange.visit plug verb request timeout scope world) ↔
      (exchange.registry.find plug.uri).isSome = true ∧ given = request ∧
        cookies = ((world.jars (exchange.jarName plug scope)).fetch plug.uri world.date).1 := by
  change Step.dress cookies given
    ∈ (exchange.tracedHop plug verb request timeout).events scope world ↔ _
  unfold tracedHop
  rw [Logged.events_note_bind, List.mem_cons]
  have notFind : Step.dress cookies given ≠ .find plug.uri (exchange.registry.find plug.uri) :=
    nofun
  cases finds : exchange.registry.find plug.uri with
  | none =>
    rw [finds] at notFind
    constructor
    · rintro (same | later)
      · exact absurd same notFind
      · cases later
    · rintro ⟨isFound, -⟩
      cases isFound
  | some found =>
    rw [finds] at notFind
    have jar : ((Logged.of (ε := Step σ) (exchange.jarOf plug)).plain scope world)
        = (.done (exchange.jarName plug scope), world) := exchange.jarOf_apply plug scope world
    have jarDone := congrArg Prod.fst jar
    have silent : (Logged.of (ε := Step σ) (exchange.jarOf plug)).events scope world = [] := rfl
    rw [Logged.events_bind_of_done jarDone, silent, List.nil_append, congrArg Prod.snd jar]
    rw [Logged.events_bind_of_done rfl, Logged.events_note_bind]
    constructor
    · rintro (same | later)
      · exact absurd same notFind
      rcases List.mem_append.mp later with none | later
      · cases none
      rcases List.mem_cons.mp later with here | later
      · cases here
        exact ⟨rfl, rfl, rfl⟩
      -- The steps that come later are of other kinds.
      rcases Logged.mem_events_bind.mp later with before | ⟨outcome, _, later⟩
      · obtain ⟨_, _, _, _, _, same⟩ := exists_of_mem_tracedBefore before
        cases same
      cases outcome with
      | error response => cases later
      | ok passed =>
        rcases Logged.mem_events_bind.mp later with ask | ⟨outcome, _, later⟩
        · cases eq_of_mem_tracedAnswer ask
        cases outcome with
        | error response => cases later
        | ok response =>
          rcases Logged.mem_events_bind.mp later with none | ⟨_, _, none⟩ <;> cases none
    · rintro ⟨-, rfl, rfl⟩
      exact Or.inr (List.mem_append_right _ List.mem_cons_self)

/-- In the first hop of a call that somebody serves, the request of the caller is dressed. -/
theorem first_hop_dresses (isFound : (exchange.registry.find plug.uri).isSome = true)
    (accepted : refusal? request = none) (verb : Verb) (timeout : Span) (scope : Scope)
    (world : World σ) :
    exchange.visit plug verb request timeout scope world
        ∈ exchange.visits plug verb request timeout scope world ∧
      Step.dress ((world.jars (exchange.jarName plug scope)).fetch plug.uri world.date).1 request
        ∈ exchange.hopSteps verb timeout scope
          (exchange.visit plug verb request timeout scope world) := by
  obtain ⟨rest, visits⟩ := exchange.exists_visits_cons plug verb timeout scope world accepted
  refine ⟨?_, dress_mem_hopSteps_iff.mpr ⟨isFound, rfl, rfl⟩⟩
  rw [visits]
  exact List.mem_cons_self

/-- A plug attaches nothing but what it is given. -/
theorem mem_or_mem_of_mem_dress {cookies : List Cookie} {cookie : Cookie}
    (member : cookie ∈ (plug.dress cookies request).cookies) :
    cookie ∈ request.cookies ∨ cookie ∈ cookies := by
  have authorized : ∀ message : Message,
      (Plug.authorize plug.credentials message).cookies = message.cookies := by
    intro message
    unfold Plug.authorize
    cases plug.credentials with
    | none => rfl
    | some credentials =>
      simp only
      split <;> rfl
  have added : cookie ∈ (cookies.foldl Plug.addMissing request).cookies := by
    unfold Plug.dress at member
    rwa [authorized] at member
  clear member
  induction cookies generalizing request with
  | nil => exact Or.inl added
  | cons first rest ih =>
    rcases ih added with early | late
    · unfold Plug.addMissing at early
      split at early
      · exact Or.inl early
      · rcases List.mem_append.mp early with given | isFirst
        · exact Or.inl given
        · rw [List.mem_singleton.mp isFirst]
          exact Or.inr List.mem_cons_self
    · exact Or.inr (List.mem_cons_of_mem _ late)

/-! ### Sequences of calls -/

/-- **The worlds that calls lead to** from one in which a jar is empty. In between, others may use
the jar and time may pass. -/
inductive Reached (exchange : Exchange σ) (name : JarName) : World σ → Prop where
  | start {world : World σ} (isEmpty : world.jars name = Jar.empty) : Reached exchange name world
  | call {world : World σ} (plug : Plug σ) (verb : Verb) (request : Message) (timeout : Span)
      (scope : Scope) (handlers : plug.Keeps (World.UsesJar name))
      (before : Reached exchange name world) :
      Reached exchange name (exchange.invokeWithin plug verb request timeout scope world).2
  | between {world later : World σ} (uses : world.UsesJar name later)
      (before : Reached exchange name world) : Reached exchange name later

/-- Whatever calls lead to, the jar was empty once and has only been used since. -/
theorem Reached.exists_usesJar (keeps : exchange.registry.Keeps (World.UsesJar name))
    (reached : exchange.Reached name world) :
    ∃ first : World σ, first.jars name = Jar.empty ∧ first.UsesJar name world := by
  induction reached with
  | @start world isEmpty => exact ⟨world, isEmpty, refl_of (World.UsesJar name) world⟩
  | @call world plug verb request timeout scope handlers _ ih =>
    obtain ⟨first, isEmpty, uses⟩ := ih
    have called : (exchange.invokeWithin plug verb request timeout).Keeps (World.UsesJar name) :=
      invokeWithin_keeps keeps handlers
    exact ⟨first, isEmpty, trans_of (World.UsesJar name) uses (called scope world)⟩
  | between later _ ih =>
    obtain ⟨first, isEmpty, uses⟩ := ih
    exact ⟨first, isEmpty, trans_of (World.UsesJar name) uses later⟩

theorem mem_fetch_iff {jar : Jar} (sound : jar.Sound) {now : Int} {cookie : Cookie} :
    cookie ∈ (jar.fetch uri now).1 ↔ cookie ∈ jar.cookies ∧
      ∃ place, cookie.scope = some place ∧ Cookie.HostsAgree place uri ∧
        (place.pathText = "/" ∨ Cookie.PathWithin uri.pathText place.pathText) ∧
        (∀ moment, cookie.expires = some moment → now < moment) ∧
        (cookie.secure = true → uri.scheme = "https" ∨ uri.scheme = "local") := by
  unfold Jar.fetch Jar.select Jar.purge
  rw [List.mem_mergeSort, List.mem_filter, List.mem_filter, and_assoc]
  refine and_congr_right fun member => ?_
  obtain ⟨place, isPlace⟩ := Option.isSome_iff_exists.mp (sound.scopes cookie member)
  rw [Cookie.matchesUri_iff isPlace, Bool.not_eq_true', Cookie.isExpired_eq_false_iff, isPlace]
  simp only [Option.some.injEq, exists_eq_left']
  constructor
  · rintro ⟨fresh, -, secure, hosts, path⟩
    exact ⟨hosts, path, fresh, secure⟩
  · rintro ⟨hosts, path, fresh, secure⟩
    exact ⟨fresh, fresh, secure, hosts, path⟩

/-- **What a plug attaches has a scope that covers its URI**, whatever the scheme of the scope is,
and however many calls, endpoints and handlers have used the jar before. Of what the jar holds the
plug is given just that. -/
theorem attaches_what_covers (exchange : Exchange σ) (name : JarName)
    (keeps : exchange.registry.Keeps (World.UsesJar name)) (world : World σ)
    (reached : exchange.Reached name world) (plug : Plug σ)
    (handlers : plug.Keeps (World.UsesJar name)) (verb : Verb) (request : Message) (timeout : Span)
    (scope : Scope) :
    ∀ visit ∈ exchange.visits plug verb request timeout scope world,
      exchange.jarName visit.plug scope = name → ∀ cookies given,
      Step.dress cookies given ∈ exchange.hopSteps verb timeout scope visit →
        (visit.began.jars name).Sound ∧
        (∀ cookie, cookie ∈ cookies ↔ cookie ∈ (visit.began.jars name).cookies ∧
          ∃ place, cookie.scope = some place ∧ Cookie.HostsAgree place visit.plug.uri ∧
            (place.pathText = "/" ∨
              Cookie.PathWithin visit.plug.uri.pathText place.pathText) ∧
            (∀ moment, cookie.expires = some moment → visit.began.date < moment) ∧
            (cookie.secure = true →
              visit.plug.uri.scheme = "https" ∨ visit.plug.uri.scheme = "local")) ∧
        ∀ cookie ∈ (visit.plug.dress cookies given).cookies,
          cookie ∉ given.cookies → cookie ∈ cookies := by
  intro visit member named cookies given dressed
  have began : exchange.Reached name visit.began :=
    .between (usesJar_began keeps handlers visit member) reached
  obtain ⟨first, isEmpty, history, isJar⟩ := began.exists_usesJar keeps
  have sound : (visit.began.jars name).Sound := by
    rw [isJar, isEmpty]
    exact Jar.Sound.empty.run history
  obtain ⟨hopPlug, hopRequest, hopWorld, rfl⟩ := exists_of_mem_visits visit member
  obtain ⟨-, -, rfl⟩ := dress_mem_hopSteps_iff.mp dressed
  refine ⟨sound, fun cookie => ?_, fun cookie attached fresh => ?_⟩
  · change exchange.jarName hopPlug scope = name at named
    rw [named]
    exact mem_fetch_iff sound
  · exact (mem_or_mem_of_mem_dress attached).resolve_left fresh

/-! ### An inn -/

/-- A scripted endpoint leaves every jar alone. -/
theorem mockAnswer_keeps (name : JarName) (party : String) (key : Nat)
    (entries : List Script.Entry) (plug : Plug Script.Trace) (verb : Verb) (uri : Uri)
    (request : Message) (limit : Span) :
    (Script.mockAnswer party key entries plug verb uri request limit).Keeps
      (World.UsesJar name) := by
  have counted : (Script.countCall key : Activity Script.Trace Nat).Keeps (World.UsesJar name) :=
    .bind .world fun _ => .bind (fun _ _ => ⟨[], rfl⟩) fun _ => .pure _
  unfold Script.mockAnswer
  refine .bind .world fun world => ?_
  refine .bind (fun _ _ => ⟨[], rfl⟩) fun _ => ?_
  refine .bind counted fun number => ?_
  refine .bind ?pauses fun _ => ?_
  case pauses =>
    cases (Script.entryAt entries number).pause with
    | none => exact .pure _
    | some length => exact .wait _
  exact .of_world_eq (Script.perform_world number request _)

/-- A door of the inn, by which calls with a scheme come in. -/
def innDoor (key : Nat) (scheme : String) (reply : Message) : Endpoint Script.Trace :=
  { key, name := scheme, score := Script.mockScore (.object [("scheme", .text scheme)])
    delivery := .answers
      (Script.mockAnswer scheme key [{ pause := none, action := .replies reply none }]) }

/-- An inn with a door for its own people, who are given a key, and a door to the street. -/
def innExchange : Exchange Script.Trace :=
  { registry := ⟨[innDoor 0 "local" (Message.ok.addCookie (.ofPair "key" "7")),
      innDoor 1 "http" Message.ok]⟩
    jar := .shared, settings := .standard }

/-- A plug for a door of the inn. -/
def innPlug (scheme : String) : Plug Script.Trace :=
  innExchange.plug (Uri.ofPlace scheme "inn" [""])

/-- After one of its own people came in. -/
def innWorld : World Script.Trace :=
  (innExchange.invokeWithin (innPlug "local") .get Message.ok (Span.ofSeconds 60) .outermost
    (World.initial 0 .empty)).2

theorem innExchange_keeps (name : JarName) :
    innExchange.registry.Keeps (World.UsesJar name) := by
  intro endpoint member answer delivers plug verb uri request limit
  rcases List.mem_cons.mp member with rfl | other
  · cases delivers
    exact mockAnswer_keeps name _ _ _ plug verb uri request limit
  · rw [List.mem_singleton.mp other] at delivers
    cases delivers
    exact mockAnswer_keeps name _ _ _ plug verb uri request limit

theorem innWorld_reached : innExchange.Reached .shared innWorld :=
  .call _ _ _ _ _ nofun (.start rfl)

/-- What the inn has given its own people, it is given when they come again. -/
theorem inn_attaches_what_covers : ∃ visit ∈ innExchange.visits (innPlug "local") .get Message.ok
      (Span.ofSeconds 60) .outermost innWorld, ∃ cookies,
    Step.dress cookies Message.ok
      ∈ innExchange.hopSteps .get (Span.ofSeconds 60) .outermost visit ∧
    cookies.map Cookie.value = ["7"] ∧ ∀ cookie ∈ cookies, ∃ place, cookie.scope = some place ∧
      Cookie.HostsAgree place visit.plug.uri := by
  have isFound : (innExchange.registry.find (innPlug "local").uri).isSome = true := by
    decide +kernel
  have accepted : refusal? Message.ok = none := rfl
  obtain ⟨first, dressed⟩ :=
    first_hop_dresses isFound accepted .get (Span.ofSeconds 60) .outermost innWorld
  refine ⟨_, first, _, dressed, by decide +kernel, fun cookie member => ?_⟩
  obtain ⟨-, given, -⟩ := attaches_what_covers innExchange .shared (innExchange_keeps .shared)
    innWorld innWorld_reached (innPlug "local") nofun .get Message.ok (Span.ofSeconds 60) .outermost
    _ first rfl _ _ dressed
  obtain ⟨-, place, isPlace, agree, -⟩ := (given cookie).mp member
  exact ⟨place, isPlace, agree⟩

/-- **The key that the inn gave its own people opens the door to the street.** -/
theorem inn_attaches_key_outside : innExchange.Reached .shared innWorld ∧
    ∃ visit ∈ innExchange.visits (innPlug "http") .get Message.ok (Span.ofSeconds 60) .outermost
      innWorld, ∃ cookies,
    Step.dress cookies Message.ok
      ∈ innExchange.hopSteps .get (Span.ofSeconds 60) .outermost visit ∧
    ∃ key ∈ (visit.plug.dress cookies Message.ok).cookies, key ∉ Message.ok.cookies ∧
      key.scope.map Uri.isLocal = some true ∧ visit.plug.uri.isLocal = false := by
  have isFound : (innExchange.registry.find (innPlug "http").uri).isSome = true := by
    decide +kernel
  have accepted : refusal? Message.ok = none := rfl
  obtain ⟨first, dressed⟩ :=
    first_hop_dresses isFound accepted .get (Span.ofSeconds 60) .outermost innWorld
  have attached : ((innPlug "http").dress ((innWorld.jars .shared).fetch (innPlug "http").uri
      innWorld.date).1 Message.ok).cookies
        = [{ Cookie.ofPair "key" "7" with scope := some (innPlug "local").uri }] := by
    decide +kernel
  refine ⟨innWorld_reached, _, first, _, dressed, { Cookie.ofPair "key" "7" with
    scope := some (innPlug "local").uri }, ?_, List.not_mem_nil, ?_, ?_⟩
  · exact attached ▸ List.mem_singleton_self _
  · decide +kernel
  · decide +kernel

end Exchange

end Switchboard
