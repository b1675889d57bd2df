import Switchboard.Proofs.Dispatcher.History
import Switchboard.Proofs.Feature.Building
/-!
The features that a dispatcher holds.

Services are registered whole or not at all, and unregistered by their names. What the dispatcher
holds then is described by a list: of every feature what was declared, and the hits that are told of
it. A change adds to the end of the list, or takes away from it, or leaves it alone.

* `Desk.Amends`: what one change does to the list, and what is answered.
* `Desk.amends_after`: every change does so.
* `Desk.unspent_run`: numbers that were not given yet have no hits, after every history.
* `Desk.amended_iff`: what changes come to, in any number and order, is what they do to the list one
  by one.
-/

namespace Switchboard.Dispatcher

variable {σ : Type}

/-! ### Changes -/

/-- A change of what a dispatcher holds. -/
inductive Change (σ : Type) where
  | register (service : Service σ)
  | unregister (service : String)

/-- A change as it is asked for. -/
def Change.call : Change σ → Call σ
  | .register service => .register service
  | .unregister service => .unregister service

/-- What is answered to a change. -/
inductive Outcome where
  | registered
  | refused (fault : FeatureFault)
  | removed (count : Nat)
  deriving DecidableEq, Repr

/-- A feature in a list: what was declared, and its hits. -/
structure Listing (σ : Type) where
  feature : Feature σ
  hits : UInt64

/-- What can be told about a feature in a list. -/
def Listing.info (listing : Listing σ) : FeatureInfo := listing.feature.info listing.hits

namespace Desk

/-- The features that a desk holds, in order. -/
def listed (desk : Desk σ) : List (Listing σ) :=
  desk.dispatcher.features.map fun feature =>
    { feature := feature.declared, hits := desk.world.hits feature.counter }

/-- What is told is what is listed. -/
theorem infos_eq (desk : Desk σ) : desk.infos = desk.listed.map Listing.info := by
  unfold infos Dispatcher.infos listed
  rw [List.map_map]
  rfl

/-- What a desk answers to a change. -/
def outcome (desk : Desk σ) : Change σ → Outcome
  | .register service =>
    match desk.dispatcher.register service with
    | .ok _ => .registered
    | .error fault => .refused fault
  | .unregister service => .removed (desk.dispatcher.unregister service).2

/-- What a desk answers to changes, one after the other. -/
def outcomes (desk : Desk σ) : List (Change σ) → List Outcome
  | [] => []
  | change :: rest => desk.outcome change :: outcomes (desk.after change.call) rest

/-- **What a change does to what is listed**, and what is answered. A service whose drafts all
compile adds its features at the end, in order, with no hits. A service with a draft that fails adds
nothing. -/
inductive Amends (listed : List (Listing σ)) : Change σ → Outcome → List (Listing σ) → Prop where
  | registered {service : Service σ} {features : List (Feature σ)}
      (compile : service.Verdict (.ok features)) :
      Amends listed (.register service) .registered
        (listed ++ features.map fun feature => { feature, hits := 0 })
  | refused {service : Service σ} {fault : FeatureFault} (fails : service.Verdict (.error fault)) :
      Amends listed (.register service) (.refused fault) listed
  | removed (service : String) :
      Amends listed (.unregister service)
        (.removed (listed.countP fun listing => listing.feature.service = service))
        (listed.filter fun listing => listing.feature.service ≠ service)

/-- What changes do to what is listed, one after the other. -/
inductive Amended :
    List (Listing σ) → List (Change σ) → List Outcome → List (Listing σ) → Prop where
  | nil (listed : List (Listing σ)) : Amended listed [] [] listed
  | cons {listed next last : List (Listing σ)} {change : Change σ} {rest : List (Change σ)}
      {outcome : Outcome} {outcomes : List Outcome} (first : Amends listed change outcome next)
      (later : Amended next rest outcomes last) :
      Amended listed (change :: rest) (outcome :: outcomes) last

/-- **A change does one thing only.** -/
theorem Amends.unique {listed next next' : List (Listing σ)} {change : Change σ}
    {outcome outcome' : Outcome} (amends : Amends listed change outcome next)
    (amends' : Amends listed change outcome' next') : outcome = outcome' ∧ next = next' := by
  have verdicts : ∀ {service : Service σ} {result result' : Except FeatureFault (List (Feature σ))},
      service.Verdict result → service.Verdict result' → result = result' := fun one other =>
    ((Service.verdict_iff "" 0).mp one).symm.trans ((Service.verdict_iff "" 0).mp other)
  cases amends with
  | registered compile =>
    cases amends' with
    | registered compile' =>
      cases verdicts compile compile'
      exact ⟨rfl, rfl⟩
    | refused fails => cases verdicts compile fails
  | refused fails =>
    cases amends' with
    | registered compile => cases verdicts fails compile
    | refused fails' =>
      cases verdicts fails fails'
      exact ⟨rfl, rfl⟩
  | removed service =>
    cases amends' with
    | removed => exact ⟨rfl, rfl⟩

/-! ### Numbers that were not given -/

/-- **Numbers that were not given yet have no hits.** -/
def Unspent (desk : Desk σ) : Prop := ∀ number, desk.dispatcher.registered ≤ number →
  desk.world.hits { place := desk.dispatcher.place, number } = 0

theorem place_after (desk : Desk σ) (call : Call σ) :
    (desk.after call).dispatcher.place = desk.dispatcher.place := by
  cases call with
  | register service =>
    cases registers : desk.dispatcher.register service with
    | error fault => rw [after_register_of_error registers]
    | ok next =>
      rw [after_register registers]
      obtain ⟨features, _, rfl⟩ := map_eq_ok_iff.mp registers
      rfl
  | unregister service => rfl
  | dispatch verb uri request granted scope => rfl

theorem registered_le_after (desk : Desk σ) (call : Call σ) :
    desk.dispatcher.registered ≤ (desk.after call).dispatcher.registered := by
  cases call with
  | register service =>
    cases registers : desk.dispatcher.register service with
    | error fault => rw [after_register_of_error registers]
    | ok next =>
      rw [after_register registers]
      obtain ⟨features, _, rfl⟩ := map_eq_ok_iff.mp registers
      exact Nat.le_add_right _ _
  | unregister service => exact Nat.le_refl _
  | dispatch verb uri request granted scope => exact Nat.le_refl _

/-- What changes nothing but the features counts no hits. -/
theorem unspent_after_change {desk : Desk σ} (unspent : desk.Unspent) (change : Change σ) :
    (desk.after change.call).Unspent := by
  intro number beyond
  have world : (desk.after change.call).world = desk.world := by cases change <;> rfl
  rw [world, place_after]
  exact unspent number (Nat.le_trans (desk.registered_le_after change.call) beyond)

/-- A feature that runs has a number that was given. -/
theorem number_lt_of_ran? {desk : Desk σ} (numbered : desk.dispatcher.Numbered) {call : Call σ}
    {counter : Counter} (ran : desk.ran? call = some counter) :
    counter.number < desk.dispatcher.registered := by
  cases call with
  | register service => cases ran
  | unregister service => cases ran
  | dispatch verb uri request granted scope =>
    unfold ran? at ran
    simp only at ran
    split at ran
    · rename_i feature memorized spent isRuling
      split at ran
      · cases ran
        have decided := decides_iff.mpr isRuling
        exact (numbered.given feature (decided.executed scope desk.world).mem).2
      · cases ran
    · cases ran

/-- **After every history numbers that were not given have no hits**, if handlers count nothing. -/
theorem unspent_run {desk : Desk σ} (unspent : desk.Unspent) (numbered : desk.dispatcher.Numbered)
    (neutral : desk.Keeps World.SameHits) (history : List (Call σ))
    (services : ∀ service, .register service ∈ history → service.Keeps World.SameHits) :
    (desk.run history).Unspent := by
  induction history generalizing desk with
  | nil => exact unspent
  | cons call rest ih =>
    have first : ∀ service, call = .register service → service.Keeps World.SameHits := by
      rintro service rfl
      exact services service List.mem_cons_self
    refine ih (fun number beyond => ?_) (numbered_after numbered call) (neutral.after first)
      fun service member => services service (List.mem_cons_of_mem _ member)
    have given := Nat.le_trans (desk.registered_le_after call) beyond
    have notRun : { place := desk.dispatcher.place, number } ∉ (desk.ran? call).toList := by
      intro member
      have below := number_lt_of_ran? numbered (Option.mem_toList.mp member)
      exact absurd given (Nat.not_le.mpr below)
    rw [hits_after neutral call, place_after, unspent number given, List.count_eq_zero.mpr notRun]
    rfl

/-! ### One change -/

/-- The features of a service that is registered are listed without hits. -/
theorem listed_of_build {desk : Desk σ} (unspent : desk.Unspent) {service : Service σ}
    {features : List (Feature σ)}
    (built : service.build desk.dispatcher.place desk.dispatcher.registered = .ok features) :
    features.map (fun feature => Listing.mk feature.declared (desk.world.hits feature.counter))
      = (features.map Feature.declared).map fun feature => { feature, hits := 0 } := by
  obtain ⟨counters, -⟩ := Service.of_buildFrom built
  rw [List.map_map]
  refine List.map_congr_left fun feature member => ?_
  have isNew : feature.counter ∈ features.map Feature.counter := List.mem_map_of_mem member
  rw [counters] at isNew
  obtain ⟨number, inRange, isCounter⟩ := List.mem_map.mp isNew
  have noHits := unspent number (List.mem_range'_1.mp inRange).1
  rw [isCounter] at noHits
  exact congrArg (Listing.mk feature.declared) noHits

theorem register_of_build {dispatcher : Dispatcher σ} {service : Service σ}
    {features : List (Feature σ)}
    (built : service.build dispatcher.place dispatcher.registered = .ok features) :
    dispatcher.register service = .ok
      { dispatcher with
        features := dispatcher.features ++ features
        registered := dispatcher.registered + features.length } :=
  map_eq_ok_iff.mpr ⟨features, built, rfl⟩

theorem bne_service (service : String) :
    (fun feature : Feature σ => feature.service != service)
      = fun feature => decide (feature.service ≠ service) := by
  funext feature
  rw [Bool.eq_iff_iff, bne_iff_ne, decide_eq_true_iff]

/-- As many features are taken away when a service is unregistered as have its name. -/
theorem countP_service (desk : Desk σ) (service : String) :
    (desk.dispatcher.unregister service).2
      = desk.listed.countP fun listing => listing.feature.service = service := by
  have told : (desk.listed.countP fun listing => listing.feature.service = service)
      = desk.dispatcher.features.countP fun feature => feature.service = service := by
    unfold listed
    rw [List.countP_map]
    rfl
  have parts := desk.dispatcher.features.length_eq_countP_add_countP
    fun feature => decide (feature.service = service)
  have others : desk.dispatcher.features.countP (fun feature => ¬ (feature.service = service))
      = (desk.dispatcher.features.filter fun feature => feature.service != service).length := by
    rw [bne_service, ← List.countP_eq_length_filter]
  show desk.dispatcher.features.length
    - (desk.dispatcher.features.filter fun feature => feature.service != service).length = _
  rw [told, ← others]
  simp only [decide_eq_true_eq] at parts
  omega

/-- What has another name is listed as it was. -/
theorem listed_unregister (desk : Desk σ) (service : String) :
    (desk.after (.unregister service)).listed
      = desk.listed.filter fun listing => listing.feature.service ≠ service := by
  unfold listed
  rw [List.filter_map]
  show List.map _ (desk.dispatcher.features.filter fun feature => feature.service != service) = _
  rw [bne_service]
  rfl

/-- **Every change amends what is listed.** -/
theorem amends_after {desk : Desk σ} (unspent : desk.Unspent) (change : Change σ) :
    Amends desk.listed change (desk.outcome change) (desk.after change.call).listed := by
  cases change with
  | unregister service =>
    have amends : Amends desk.listed (.unregister service) _ _ := .removed service
    rw [← countP_service, ← listed_unregister] at amends
    exact amends
  | register service =>
    have verdict : service.Verdict _ := (Service.verdict_iff desk.dispatcher.place
      desk.dispatcher.registered).mpr rfl
    cases built : service.build desk.dispatcher.place desk.dispatcher.registered with
    | error fault =>
      have registers : desk.dispatcher.register service = .error fault :=
        map_eq_error_iff.mpr built
      have answers : desk.outcome (.register service) = .refused fault := by
        simp only [outcome, registers]
      rw [built] at verdict
      rw [answers, Change.call, after_register_of_error registers]
      exact .refused verdict
    | ok features =>
      have registers := register_of_build built
      have answers : desk.outcome (.register service) = .registered := by
        simp only [outcome, registers]
      rw [built] at verdict
      rw [answers, Change.call, after_register registers]
      unfold listed
      rw [List.map_append, listed_of_build unspent built]
      exact .registered verdict

/-! ### All changes -/

/-- **Changes amend what is listed one by one**, whatever they are: the list that there is after any
number of changes is the one that they make of the list before, and so is what they are answered; and
the list is what is told. -/
theorem amended_iff {desk : Desk σ} (unspent : desk.Unspent) (changes : List (Change σ))
    (outcomes : List Outcome) (last : List (Listing σ)) :
    (Amended desk.listed changes outcomes last ↔ outcomes = desk.outcomes changes ∧
      last = (desk.run (changes.map Change.call)).listed) ∧
    (desk.run (changes.map Change.call)).infos
      = (desk.run (changes.map Change.call)).listed.map Listing.info := by
  refine ⟨?_, infos_eq _⟩
  induction changes generalizing desk outcomes with
  | nil =>
    constructor
    · intro amended
      cases amended
      exact ⟨rfl, rfl⟩
    · rintro ⟨rfl, rfl⟩
      exact .nil _
  | cons change rest ih =>
    have here := amends_after unspent change
    have later := ih (unspent_after_change unspent change)
    constructor
    · intro amended
      cases amended with
      | cons first others =>
        obtain ⟨rfl, rfl⟩ := first.unique here
        obtain ⟨rfl, rfl⟩ := (later _).mp others
        exact ⟨rfl, rfl⟩
    · rintro ⟨rfl, rfl⟩
      exact .cons here ((later _).mpr ⟨rfl, rfl⟩)

/-! ### A ledger in use -/

/-- The ledger after somebody has read from it. -/
def usedLedger : Desk Unit :=
  ledgerDesk.after (.dispatch .get entriesUri .ok .anyone .outermost)

/-- A ledger of which the last draft has no handler, and a second ledger that does not stay. -/
def ledgerChanges : List (Change Unit) :=
  [.register { ledgerService with
     name := "broken", drafts := ledgerService.drafts ++ [Draft.of "GET" "totals"] },
   .register { ledgerService with name := "copy", basePath := "copy" }, .unregister "copy"]

/-- The broken ledger leaves nothing behind, and the hit of the ledger in use is kept. -/
theorem usedLedger_amended : usedLedger.Unspent ∧
    Amended usedLedger.listed ledgerChanges
      [.refused (.missingHandler "GET:/ledger/totals"), .registered, .removed 2]
      (usedLedger.run (ledgerChanges.map Change.call)).listed ∧
    (usedLedger.run (ledgerChanges.map Change.call)).listed.map (fun listing =>
      (listing.feature.service, listing.hits)) = [("ledger", 1), ("ledger", 0)] := by
  have unspent : usedLedger.Unspent := by
    refine unspent_run (fun _ _ => rfl) (numbered_run (Numbered.empty _ _) ledgerHistory)
      (ledgerDesk_keeps World.SameHits) [.dispatch .get entriesUri .ok .anyone .outermost] ?_
    intro service member
    cases List.mem_singleton.mp member
  have answered : usedLedger.outcomes ledgerChanges
      = [.refused (.missingHandler "GET:/ledger/totals"), .registered, .removed 2] := by
    decide +kernel
  refine ⟨unspent, ?_, by decide +kernel⟩
  exact ((amended_iff unspent ledgerChanges _ _).1).mpr ⟨answered.symm, rfl⟩

end Desk

end Switchboard.Dispatcher
