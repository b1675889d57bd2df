import Mathlib.Data.List.Nodup
import Switchboard.Proofs.Dispatcher.Ruling
import Switchboard.Proofs.Feature.Rank
/-!
Dispatchers over time.

Services are registered and unregistered, and requests come in between. The counter of a feature has
the number that the feature got when it was registered, and no number is given twice. So the hits
that are told of a feature are its own, and a request that a feature runs for adds one to them and
none to those of any other feature.

* `Dispatcher.Desk.numbered_run`: after every history the features have counters of their own.
* `Dispatcher.dispatch_outcome`: what becomes of a request after every history.
* `Dispatcher.Desk.hits_run`: a history adds to each counter the number of times its feature was
  run.
-/

namespace Switchboard

variable {σ : Type} {related : World σ → World σ → Prop}

/-! ### What is built -/

/-- The handlers of a draft. -/
def Draft.handlers (draft : Draft σ) : List (Handler σ) :=
  draft.handler.toList ++ (draft.prologues ++ draft.epilogues).map StageDraft.handler

/-- The handlers of a service keep a frame. -/
def Service.Keeps (service : Service σ) (related : World σ → World σ → Prop) : Prop :=
  ∀ draft ∈ service.drafts, ∀ handler ∈ draft.handlers, ∀ arguments,
    (handler arguments).Keeps related

theorem StageDraft.handler_of_build {draft : StageDraft σ} {signature : Signature} {stage : Stage σ}
    (built : draft.build signature = .ok stage) : stage.handler = draft.handler := by
  unfold build at built
  cases plan : Plan.ofParameters draft.parameters signature with
  | error fault =>
    rw [plan] at built
    cases built
  | ok plan' =>
    rw [plan] at built
    cases built
    rfl

theorem StageDraft.handler_mem_of_buildAll {drafts : List (StageDraft σ)} {signature : Signature}
    {stages : List (Stage σ)} (built : buildAll signature drafts = .ok stages) :
    ∀ stage ∈ stages, stage.handler ∈ drafts.map StageDraft.handler := by
  induction drafts generalizing stages with
  | nil =>
    cases built
    exact fun stage member => nomatch member
  | cons draft rest ih =>
    unfold buildAll at built
    cases first : draft.build signature with
    | error fault => simp [first] at built
    | ok made =>
      simp only [first] at built
      obtain ⟨later, others, rfl⟩ := map_eq_ok_iff.mp built
      intro stage member
      rcases List.mem_cons.mp member with rfl | isLater
      · rw [handler_of_build first]
        exact List.mem_cons_self
      · exact List.mem_cons_of_mem _ (ih others stage isLater)

/-- A feature that is built has the counter that it is built with, and handlers of its draft. -/
theorem Draft.of_build {draft : Draft σ} {service : String} {base : List String}
    {counter : Counter} {feature : Feature σ}
    (built : draft.build service base counter = .ok feature) : feature.counter = counter ∧
      ∀ stage ∈ feature.prologues ++ feature.main :: feature.epilogues,
        stage.handler ∈ draft.handlers := by
  unfold build at built
  obtain ⟨verb, _, built⟩ := exists_of_bind built
  obtain ⟨signature, _, built⟩ := exists_of_bind built
  dsimp only at built
  split at built
  · rename_i handler given
    obtain ⟨handler', sameHandler, built⟩ := exists_of_bind built
    obtain ⟨main, isMain, built⟩ := exists_of_bind built
    obtain ⟨prologues, arePrologues, built⟩ := exists_of_bind built
    obtain ⟨epilogues, areEpilogues, built⟩ := exists_of_bind built
    cases built
    cases sameHandler
    refine ⟨rfl, fun stage member => ?_⟩
    unfold handlers
    rw [List.map_append, given]
    rcases List.mem_append.mp member with before | here
    · have own := StageDraft.handler_mem_of_buildAll arePrologues stage before
      exact List.mem_append_right _ (List.mem_append_left _ own)
    rcases List.mem_cons.mp here with rfl | after
    · rw [StageDraft.handler_of_build isMain]
      exact List.mem_cons_self
    · have own := StageDraft.handler_mem_of_buildAll areEpilogues stage after
      exact List.mem_append_right _ (List.mem_append_right _ own)
  · cases built

/-- **The features of a service are numbered one after the other**, and each is built of a draft. -/
theorem Service.of_buildFrom {service : Service σ} {place : String} {drafts : List (Draft σ)}
    {features : List (Feature σ)} {number : Nat}
    (built : service.buildFrom place number drafts = .ok features) :
    features.map Feature.counter = (List.range' number features.length).map (Counter.mk place) ∧
      ∀ feature ∈ features, ∃ draft ∈ drafts, ∃ counter,
        draft.build service.name service.baseSegments counter = .ok feature := by
  induction drafts generalizing number features with
  | nil =>
    cases built
    exact ⟨rfl, fun feature member => nomatch member⟩
  | cons draft rest ih =>
    unfold buildFrom at built
    cases first : draft.build service.name service.baseSegments { place, number } with
    | error fault => simp [first] at built
    | ok made =>
      simp only [first] at built
      obtain ⟨later, others, rfl⟩ := map_eq_ok_iff.mp built
      obtain ⟨counters, drafted⟩ := ih others
      refine ⟨?_, fun feature member => ?_⟩
      · rw [List.map_cons, counters, (Draft.of_build first).1, List.length_cons,
          List.range'_succ, List.map_cons]
      · rcases List.mem_cons.mp member with rfl | isLater
        · exact ⟨draft, List.mem_cons_self, _, first⟩
        · obtain ⟨other, isOther, made⟩ := drafted feature isLater
          exact ⟨other, List.mem_cons_of_mem _ isOther, made⟩

namespace Dispatcher

/-! ### Counters -/

/-- **The features of a dispatcher have counters of their own**, which have been given already. -/
structure Numbered (dispatcher : Dispatcher σ) : Prop where
  distinct : (dispatcher.features.map Feature.counter).Nodup
  given : ∀ feature ∈ dispatcher.features,
    feature.counter.place = dispatcher.place ∧ feature.counter.number < dispatcher.registered

variable {dispatcher next : Dispatcher σ}

theorem Numbered.empty (place : String) (settings : Settings.DispatchSettings) :
    (Dispatcher.empty place settings : Dispatcher σ).Numbered :=
  ⟨List.nodup_nil, fun _ member => nomatch member⟩

/-- New numbers are beyond those that have been given. -/
theorem Numbered.register (numbered : dispatcher.Numbered) {service : Service σ}
    (registers : dispatcher.register service = .ok next) : next.Numbered := by
  obtain ⟨features, built, rfl⟩ := map_eq_ok_iff.mp registers
  obtain ⟨counters, -⟩ := Service.of_buildFrom built
  -- What was given before is below the number from which on the new ones are given.
  have isNew : ∀ counter ∈ features.map Feature.counter, counter.place = dispatcher.place ∧
      dispatcher.registered ≤ counter.number ∧
      counter.number < dispatcher.registered + features.length := by
    intro counter member
    rw [counters] at member
    obtain ⟨number, inRange, rfl⟩ := List.mem_map.mp member
    have bounds := List.mem_range'_1.mp inRange
    exact ⟨rfl, bounds.1, bounds.2⟩
  refine ⟨?_, fun feature member => ?_⟩
  · rw [List.map_append, List.nodup_append]
    refine ⟨numbered.distinct, ?_, ?_⟩
    · rw [counters]
      exact (List.nodup_range' 1).map fun one other same => by injection same
    · intro counter old other new same
      obtain ⟨feature, isFeature, rfl⟩ := List.mem_map.mp old
      have below := (numbered.given feature isFeature).2
      have above := (isNew other new).2.1
      rw [← same] at above
      omega
  · rcases List.mem_append.mp member with old | new
    · obtain ⟨place, below⟩ := numbered.given feature old
      exact ⟨place, Nat.lt_add_right _ below⟩
    · obtain ⟨place, -, below⟩ := isNew feature.counter (List.mem_map_of_mem new)
      exact ⟨place, below⟩

theorem Numbered.unregister (numbered : dispatcher.Numbered) (service : String) :
  (dispatcher.unregister service).1.Numbered := by
  unfold Dispatcher.unregister
  refine ⟨numbered.distinct.sublist (List.filter_sublist.map _), fun feature member => ?_⟩
  exact numbered.given feature (List.mem_filter.mp member).1

/-! ### Histories -/

/-- What is asked of a dispatcher. -/
inductive Call (σ : Type) where
  | register (service : Service σ)
  | unregister (service : String)
  | dispatch (verb : Verb) (uri : Uri) (request : Message) (granted : Access) (scope : Scope)

/-- A dispatcher in a world. -/
structure Desk (σ : Type) where
  dispatcher : Dispatcher σ
  world : World σ

namespace Desk

/-- A desk after a call. A service that cannot be registered changes nothing. -/
def after (desk : Desk σ) : Call σ → Desk σ
  | .register service =>
    { desk with dispatcher := (desk.dispatcher.register service).toOption.getD desk.dispatcher }
  | .unregister service => { desk with dispatcher := (desk.dispatcher.unregister service).1 }
  | .dispatch verb uri request granted scope =>
    { desk with
      world := (desk.dispatcher.dispatch verb uri request granted scope desk.world).2 }

/-- A desk after a history. -/
def run (desk : Desk σ) (history : List (Call σ)) : Desk σ := history.foldl after desk

/-- What can be told about the features now. -/
def infos (desk : Desk σ) : List FeatureInfo := desk.dispatcher.infos desk.world.hits

theorem after_register {desk : Desk σ} {service : Service σ} {next : Dispatcher σ}
    (registers : desk.dispatcher.register service = .ok next) :
    desk.after (.register service) = { desk with dispatcher := next } := by
  simp only [after, registers]
  rfl

theorem after_register_of_error {desk : Desk σ} {service : Service σ} {fault : FeatureFault}
    (fails : desk.dispatcher.register service = .error fault) :
    desk.after (.register service) = desk := by
  simp only [after, fails]
  rfl

theorem numbered_after {desk : Desk σ} (numbered : desk.dispatcher.Numbered) (call : Call σ) :
    (desk.after call).dispatcher.Numbered := by
  cases call with
  | register service =>
    cases registers : desk.dispatcher.register service with
    | error fault =>
      rw [after_register_of_error registers]
      exact numbered
    | ok next =>
      rw [after_register registers]
      exact numbered.register registers
  | unregister service => exact numbered.unregister service
  | dispatch verb uri request granted scope => exact numbered

/-- **After every history the features have counters of their own.** -/
theorem numbered_run {desk : Desk σ} (numbered : desk.dispatcher.Numbered)
    (history : List (Call σ)) : (desk.run history).dispatcher.Numbered := by
  induction history generalizing desk with
  | nil => exact numbered
  | cons call rest ih => exact ih (numbered_after numbered call)

/-! ### What handlers leave as it is -/

/-- The handlers of all features keep a frame. -/
def Keeps (desk : Desk σ) (related : World σ → World σ → Prop) : Prop :=
  ∀ feature ∈ desk.dispatcher.features, feature.Keeps related

theorem Keeps.after {desk : Desk σ} (keeps : desk.Keeps related) {call : Call σ}
    (services : ∀ service, call = .register service → service.Keeps related) :
    (desk.after call).Keeps related := by
  cases call with
  | register service =>
    cases registers : desk.dispatcher.register service with
    | error fault =>
      rw [after_register_of_error registers]
      exact keeps
    | ok next =>
      rw [after_register registers]
      obtain ⟨features, built, rfl⟩ := map_eq_ok_iff.mp registers
      intro feature member stage isStage arguments
      rcases List.mem_append.mp member with old | new
      · exact keeps feature old stage isStage arguments
      · obtain ⟨draft, isDraft, counter, made⟩ := (Service.of_buildFrom built).2 feature new
        have own := (Draft.of_build made).2 stage isStage
        exact services service rfl draft isDraft stage.handler own arguments
  | unregister service =>
    exact fun feature member => keeps feature (List.mem_filter.mp member).1
  | dispatch verb uri request granted scope => exact keeps

theorem Keeps.run {desk : Desk σ} (keeps : desk.Keeps related) (history : List (Call σ))
    (services : ∀ service, .register service ∈ history → service.Keeps related) :
    (desk.run history).Keeps related := by
  induction history generalizing desk with
  | nil => exact keeps
  | cons call rest ih =>
    have first : ∀ service, call = .register service → service.Keeps related := by
      rintro service rfl
      exact services service List.mem_cons_self
    exact ih (keeps.after first) fun service member =>
      services service (List.mem_cons_of_mem _ member)

/-! ### One more hit -/

/-- One more hit is told of a feature, and nothing else of the others. -/
def CountsOnce (desk later : Desk σ) (feature : Feature σ) : Prop :=
  ∃ front back, desk.dispatcher.features = front ++ feature :: back ∧
    later.infos = front.map (fun other => other.info (desk.world.hits other.counter))
      ++ feature.info (desk.world.hits feature.counter + 1)
        :: back.map fun other => other.info (desk.world.hits other.counter)

/-- Features with counters of their own: a hit of one is no hit of another. -/
theorem countsOnce_of_hit {desk : Desk σ} {world : World σ} {feature : Feature σ}
    (numbered : desk.dispatcher.Numbered) (member : feature ∈ desk.dispatcher.features)
    (hits : world.hits = (desk.world.hit feature.counter).hits) :
    desk.CountsOnce { desk with world } feature := by
  obtain ⟨front, back, features⟩ := List.append_of_mem member
  have distinct := numbered.distinct
  rw [features, List.map_append, List.map_cons] at distinct
  have differs : ∀ other ∈ front ++ back, other.counter ≠ feature.counter := by
    intro other isOther same
    obtain ⟨fresh, -⟩ := List.nodup_cons.mp (List.nodup_middle.mp distinct)
    rw [← same, ← List.map_append] at fresh
    exact fresh (List.mem_map_of_mem isOther)
  have others : ∀ other ∈ front ++ back,
      other.info (world.hits other.counter) = other.info (desk.world.hits other.counter) := by
    intro other isOther
    rw [hits, World.hits_hit, if_neg (differs other isOther), UInt64.add_zero]
  refine ⟨front, back, features, ?_⟩
  unfold infos Dispatcher.infos
  simp only [features, List.map_append, List.map_cons]
  rw [List.map_congr_left fun other isOther => others other (List.mem_append_left _ isOther),
    List.map_congr_left fun other isOther => others other (List.mem_append_right _ isOther),
    hits, World.hits_hit, if_pos rfl]

end Desk

/-! ### What becomes of a request -/

variable {verb : Verb} {uri : Uri} {request : Message} {granted : Access}

/-- **What becomes of a request after every history.** Exactly one thing is decided about it. Before
the access is known to be enough, the request counts for nothing. A request that is refused runs no
stage and leaves all counters alone. For any other one the selected feature runs, of which one more
hit is told. -/
theorem dispatch_outcome (place : String) (settings : Settings.DispatchSettings) (start : World σ)
    (history : List (Call σ)) (verb : Verb) (uri : Uri) (request : Message) (granted : Access)
    (scope : Scope) :
    let desk := Desk.run { dispatcher := .empty place settings, world := start } history
    let later := desk.after (.dispatch verb uri request granted scope)
    ∃ ruling spent,
      (∀ other spent', desk.dispatcher.Decides verb uri request granted other spent' ↔
        other = ruling ∧ spent' = spent) ∧
      (ruling.isEarly = true → spent = Span.zero ∧ ∀ other,
        desk.dispatcher.dispatch verb uri other granted
          = desk.dispatcher.dispatch verb uri request granted) ∧
      (∀ code, ruling.code? = some code →
        desk.dispatcher.Refused verb uri request granted code spent scope desk.world ∧
          later.world.hits = desk.world.hits) ∧
      ∀ feature memorized, ruling = .runs feature memorized →
        desk.dispatcher.Executed verb uri request granted feature memorized spent scope desk.world ∧
          (scope.Reaches (desk.world.now + spent) → feature.Keeps World.SameHits →
            desk.CountsOnce later feature) := by
  intro desk later
  have numbered : desk.dispatcher.Numbered :=
    Desk.numbered_run (Numbered.empty place settings) history
  obtain ⟨ruling, spent, decided⟩ := desk.dispatcher.exists_decides verb uri request granted
  refine ⟨ruling, spent, fun other spent' => ?_, fun early => ?_, fun code isCode => ?_, ?_⟩
  · rw [decides_iff, decided.ruling_eq, Prod.mk.injEq]
    exact and_congr eq_comm eq_comm
  · refine ⟨(decided.gate_eq_of_isEarly early request).1, fun other => ?_⟩
    unfold dispatch
    rw [(decided.gate_eq_of_isEarly early other).2]
  · have refused := decided.refused isCode scope desk.world
    obtain ⟨moment, unchanged⟩ := refused.unchanged
    refine ⟨refused, ?_⟩
    change (desk.dispatcher.dispatch verb uri request granted scope desk.world).2.hits = _
    rw [unchanged]
  · rintro feature memorized rfl
    have executed := decided.executed scope desk.world
    refine ⟨executed, fun reaches neutral => ?_⟩
    have hits := executed.kept World.SameHits neutral reaches
    exact Desk.countsOnce_of_hit numbered executed.mem hits

/-- A service that everybody may read from and only insiders may write to. -/
def ledgerService : Service Unit :=
  { name := "ledger", basePath := "ledger"
    drafts :=
      [{ Draft.of "GET" "entries" with handler := some fun _ => return .ok .ok },
       { Draft.of "POST" "entries" with
           access := .internal, handler := some fun _ => return .ok .ok }] }

/-- The ledger is registered after a service that does not stay. -/
def ledgerHistory : List (Call Unit) :=
  [.register { ledgerService with name := "draft" }, .unregister "draft", .register ledgerService]

/-- The ledger in a world of its own. -/
def ledgerDesk : Desk Unit :=
  Desk.run
    { dispatcher := .empty "" { maxBytes := 4, bodyTimeout := Span.ofSeconds 60 }
      world := .initial 0 () } ledgerHistory

/-- The path of the entries. -/
def entriesUri : Uri :=
  { scheme := "local", dotted := false, path := .segments ["ledger", "entries"]
    authority := some { username := "", password := "", host := "host", port := none }
    query := none, fragment := none }

theorem ledgerDesk_keeps (related : World Unit → World Unit → Prop) [World.Frame related] :
    ledgerDesk.Keeps related := by
  unfold ledgerDesk
  refine Desk.Keeps.run ?none _ fun service member => ?_
  case none => exact List.forall_mem_nil _
  have drafts : service.drafts = ledgerService.drafts := by
    simp only [ledgerHistory, List.mem_cons, Call.register.injEq, reduceCtorEq, List.not_mem_nil,
      or_false, false_or] at member
    rcases member with rfl | rfl <;> rfl
  intro draft isDraft handler isHandler arguments
  have isPlain : handler = fun _ => return .ok .ok := by
    rw [drafts] at isDraft
    rcases List.mem_cons.mp isDraft with rfl | isLater
    · exact List.mem_singleton.mp isHandler
    · cases List.mem_singleton.mp isLater
      exact List.mem_singleton.mp isHandler
  rw [isPlain]
  exact .pure _

/-- At the ledger an insider's request counts once, and an outsider's is refused. -/
theorem ledger_outcome :
    (∃ feature memorized,
      ledgerDesk.dispatcher.Decides .post entriesUri .ok .internal (.runs feature memorized)
        Span.zero ∧
      ledgerDesk.CountsOnce
        (ledgerDesk.after (.dispatch .post entriesUri .ok .internal .outermost)) feature) ∧
    ledgerDesk.dispatcher.Refused .post entriesUri .ok .anyone 403 Span.zero .outermost
      ledgerDesk.world := by
  constructor
  · obtain ⟨_, _, decides, -, -, runs⟩ :=
      dispatch_outcome "" { maxBytes := 4, bodyTimeout := Span.ofSeconds 60 } (.initial 0 ())
        ledgerHistory .post entriesUri .ok .internal .outermost
    have decided := ledgerDesk.dispatcher.decides_ruling .post entriesUri .ok .internal
    obtain ⟨rfl, rfl⟩ := (decides _ _).mp decided
    have atOnce : (ledgerDesk.dispatcher.ruling .post entriesUri .ok .internal).2 = Span.zero := by
      decide +kernel
    have uncoded : (ledgerDesk.dispatcher.ruling .post entriesUri .ok .internal).1.code?
        = none := by decide +kernel
    rcases Ruling.runs_or_refused _ with ⟨feature, memorized, isRuling⟩ | ⟨code, isCode⟩
    · obtain ⟨executed, countsOnce⟩ := runs feature memorized isRuling
      rw [isRuling, atOnce] at decided
      refine ⟨feature, memorized, decided, countsOnce (fun _ given => nomatch given) ?_⟩
      exact ledgerDesk_keeps World.SameHits feature executed.mem
    · rw [uncoded] at isCode
      cases isCode
  · obtain ⟨_, _, decides, -, refused, -⟩ :=
      dispatch_outcome "" { maxBytes := 4, bodyTimeout := Span.ofSeconds 60 } (.initial 0 ())
        ledgerHistory .post entriesUri .ok .anyone .outermost
    have decided := ledgerDesk.dispatcher.decides_ruling .post entriesUri .ok .anyone
    obtain ⟨rfl, rfl⟩ := (decides _ _).mp decided
    have atOnce : (ledgerDesk.dispatcher.ruling .post entriesUri .ok .anyone).2 = Span.zero := by
      decide +kernel
    have denied := (refused 403 (by decide +kernel)).1
    exact atOnce ▸ denied

/-! ### What is counted over time -/

namespace Desk

/-- The counter of the feature that is run for a call, if one is. -/
def ran? (desk : Desk σ) : Call σ → Option Counter
  | .dispatch verb uri request granted scope =>
    match desk.dispatcher.ruling verb uri request granted with
    | (.runs feature _, spent) =>
      if scope.Reaches (desk.world.now + spent) then some feature.counter else none
    | _ => none
  | _ => none

/-- The counters of the features that are run in a history, in order. -/
def runsOf (desk : Desk σ) : List (Call σ) → List Counter
  | [] => []
  | call :: rest => (desk.ran? call).toList ++ runsOf (desk.after call) rest

variable {desk : Desk σ}

/-- **One call adds to each counter what it runs**, if handlers count nothing. Counters have 64 bits
and start over after that. -/
theorem hits_after (neutral : desk.Keeps World.SameHits) (call : Call σ) (counter : Counter) :
    (desk.after call).world.hits counter
      = desk.world.hits counter + .ofNat ((desk.ran? call).toList.count counter) := by
  cases call with
  | register service => exact (UInt64.add_zero _).symm
  | unregister service => exact (UInt64.add_zero _).symm
  | dispatch verb uri request granted scope =>
    change (desk.dispatcher.dispatch verb uri request granted scope desk.world).2.hits counter = _
    obtain ⟨ruling, spent, decided⟩ := desk.dispatcher.exists_decides verb uri request granted
    rcases ruling.runs_or_refused with ⟨feature, memorized, rfl⟩ | ⟨code, isCode⟩
    · have executed := decided.executed scope desk.world
      simp only [ran?, decided.ruling_eq]
      by_cases reaches : scope.Reaches (desk.world.now + spent)
      · have hits := executed.kept World.SameHits (neutral feature executed.mem) reaches
        -- The stages count nothing, so the hit of the feature is all that is counted.
        have counted := congrFun (show _ = _ from hits) counter
        rw [counted, World.hits_hit, if_pos reaches]
        by_cases same : counter = feature.counter
        · simp [same]
        · simp [same, Ne.symm same]
      · obtain ⟨-, moment, cut⟩ := executed.cutOff reaches
        rw [cut, if_neg reaches]
        exact (UInt64.add_zero _).symm
    · obtain ⟨moment, unchanged⟩ := (decided.refused isCode scope desk.world).unchanged
      have nothing : desk.ran? (.dispatch verb uri request granted scope) = none := by
        simp only [ran?, decided.ruling_eq]
        cases ruling with
        | runs => cases isCode
        | _ => rfl
      rw [unchanged, nothing]
      exact (UInt64.add_zero _).symm

/-- **A history adds to each counter the number of times its feature was run**, if the handlers of
all services count nothing. -/
theorem hits_run (neutral : desk.Keeps World.SameHits) (history : List (Call σ))
    (services : ∀ service, .register service ∈ history → service.Keeps World.SameHits)
    (counter : Counter) : (desk.run history).world.hits counter
      = desk.world.hits counter + .ofNat ((desk.runsOf history).count counter) := by
  induction history generalizing desk with
  | nil => exact (UInt64.add_zero _).symm
  | cons call rest ih =>
    have first : ∀ service, call = .register service → service.Keeps World.SameHits := by
      rintro service rfl
      exact services service List.mem_cons_self
    have later : ∀ service, .register service ∈ rest → service.Keeps World.SameHits :=
      fun service member => services service (List.mem_cons_of_mem _ member)
    change ((desk.after call).run rest).world.hits counter = _
    rw [ih (neutral.after first) later, hits_after neutral call counter]
    rw [runsOf, List.count_append, UInt64.ofNat_add, UInt64.add_assoc]

end Desk

end Dispatcher

end Switchboard
