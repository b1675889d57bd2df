import Mathlib.Data.List.Forall2
import Switchboard.Dispatcher
/-!
When a draft becomes a feature.

A draft is checked in phases: its verb, its signature, whether it has a handler, the parameters of
its main stage, those of its prologues, and those of its epilogues. The first phase that fails gives
the fault, and within a list of stages the first stage. What comes of it depends neither on the
service nor on the counter, which are only written down.

* `Traversed`: a list is gone through until the first item that fails.
* `Draft.Compiles` and `Draft.Fails`: what a draft becomes, or which fault it has.
* `Draft.build_eq_ok_iff` and `Draft.build_eq_error_iff`: a draft is built just so.
* `Service.verdict_iff`: a service becomes all of its features in order, or has the fault of the
  first draft that fails.
-/

namespace Switchboard

/-! ### The first fault of a list -/

section

variable {α β ε : Type} {fine : α → β → Prop} {faulty : α → ε → Prop} {work : α → Except ε β}

/-- **A list is gone through**: every item is fine, or one fails and all before it are fine. -/
inductive Traversed (fine : α → β → Prop) (faulty : α → ε → Prop) :
    List α → Except ε (List β) → Prop where
  | done {items : List α} {made : List β} (each : List.Forall₂ fine items made) :
      Traversed fine faulty items (.ok made)
  | stopped (front : List α) {item : α} (back : List α) {fault : ε}
      (before : ∀ other ∈ front, ∃ made, fine other made) (fails : faulty item fault) :
      Traversed fine faulty (front ++ item :: back) (.error fault)

theorem Traversed.each {items : List α} {made : List β}
    (traversed : Traversed fine faulty items (.ok made)) : List.Forall₂ fine items made := by
  cases traversed with
  | done each => exact each

theorem mapM_cons_of_ok (work : α → Except ε β) {item : α} {made : β}
    (does : work item = .ok made) (rest : List α) :
    (item :: rest).mapM work = (rest.mapM work).map (made :: ·) := by
  rw [List.mapM_cons, does]
  cases rest.mapM work <;> rfl

theorem mapM_cons_of_error (work : α → Except ε β) {item : α} {fault : ε}
    (fails : work item = .error fault) (rest : List α) :
    (item :: rest).mapM work = .error fault := by
  rw [List.mapM_cons, fails]
  rfl

variable (work : α → Except ε β) (isFine : ∀ item made, fine item made ↔ work item = .ok made)
  (isFaulty : ∀ item fault, faulty item fault ↔ work item = .error fault)

include isFine isFaulty

/-- What comes of a list is one thing only. -/
theorem Traversed.mapM_eq {items : List α} {result : Except ε (List β)}
    (traversed : Traversed fine faulty items result) : items.mapM work = result := by
  cases traversed with
  | done each =>
    induction each with
    | nil => rfl
    | cons first _ ih =>
      rw [mapM_cons_of_ok work ((isFine _ _).mp first), ih]
      rfl
  | stopped front back before fails =>
    induction front with
    | nil => exact mapM_cons_of_error work ((isFaulty _ _).mp fails) back
    | cons other rest ih =>
      obtain ⟨⟨made, first⟩, others⟩ := List.forall_mem_cons.mp before
      rw [List.cons_append, mapM_cons_of_ok work ((isFine _ _).mp first), ih others]
      rfl

theorem traversed_mapM (items : List α) : Traversed fine faulty items (items.mapM work) := by
  induction items with
  | nil => exact .done .nil
  | cons item rest ih =>
    cases does : work item with
    | error fault =>
      rw [mapM_cons_of_error work does]
      exact .stopped [] rest (fun _ member => nomatch member) ((isFaulty _ _).mpr does)
    | ok made =>
      have first := (isFine _ _).mpr does
      rw [mapM_cons_of_ok work does]
      generalize rest.mapM work = result at ih
      cases ih with
      | done each => exact .done (.cons first each)
      | stopped front back before fails =>
        exact .stopped (item :: front) back (List.forall_mem_cons.mpr ⟨⟨made, first⟩, before⟩) fails

/-- **What comes of a list**, item by item, is what comes of the whole. -/
theorem traversed_iff {items : List α} {result : Except ε (List β)} :
    Traversed fine faulty items result ↔ items.mapM work = result := by
  refine ⟨Traversed.mapM_eq work isFine isFaulty, ?_⟩
  rintro rfl
  exact traversed_mapM work isFine isFaulty items

end

variable {σ : Type}

/-! ### Stages -/

namespace StageDraft

/-- **A stage is what was declared**, with a plan for its parameters. -/
structure Compiles (signature : Signature) (draft : StageDraft σ) (stage : Stage σ) : Prop where
  name : stage.name = draft.name
  handler : stage.handler = draft.handler
  plan : Plan.ofParameters draft.parameters signature = .ok stage.plan

/-- A parameter of a stage cannot be found. -/
def Fails (signature : Signature) (draft : StageDraft σ) (fault : FeatureFault) : Prop :=
  Plan.ofParameters draft.parameters signature = .error fault

/-- What comes of stages that are declared in order. -/
abbrev Verdict (signature : Signature) : List (StageDraft σ) → Except FeatureFault (List (Stage σ)) →
    Prop :=
  Traversed (Compiles signature) (Fails signature)

variable {draft : StageDraft σ} {signature : Signature}

theorem build_eq_ok_iff {stage : Stage σ} :
    Compiles signature draft stage ↔ draft.build signature = .ok stage := by
  unfold build
  constructor
  · rintro ⟨name, handler, planned⟩
    rw [planned, ← name, ← handler]
    rfl
  · intro built
    cases planned : Plan.ofParameters draft.parameters signature with
    | error fault =>
      rw [planned] at built
      cases built
    | ok plan =>
      rw [planned] at built
      cases built
      exact ⟨rfl, rfl, planned⟩

theorem build_eq_error_iff {fault : FeatureFault} :
    Fails signature draft fault ↔ draft.build signature = .error fault := by
  unfold build Fails
  cases Plan.ofParameters draft.parameters signature with
  | error other => exact ⟨congrArg _, fun same => congrArg _ (Except.error.inj same)⟩
  | ok plan => exact ⟨(nomatch ·), (nomatch ·)⟩

theorem buildAll_eq_mapM (signature : Signature) (drafts : List (StageDraft σ)) :
    buildAll signature drafts = drafts.mapM fun draft => draft.build signature := by
  induction drafts with
  | nil => rfl
  | cons draft rest ih =>
    unfold buildAll
    cases built : draft.build signature with
    | error fault => exact (mapM_cons_of_error (StageDraft.build · signature) built rest).symm
    | ok stage =>
      rw [mapM_cons_of_ok (StageDraft.build · signature) built rest, ← ih]

/-- **Stages are built until the first that fails.** -/
theorem verdict_iff {drafts : List (StageDraft σ)} {result : Except FeatureFault (List (Stage σ))} :
    Verdict signature drafts result ↔ buildAll signature drafts = result := by
  rw [buildAll_eq_mapM]
  exact traversed_iff (StageDraft.build · signature) (fun _ _ => build_eq_ok_iff)
    fun _ _ => build_eq_error_iff

end StageDraft

/-! ### Drafts -/

/-- A feature as it is declared, without a counter of its own. -/
def Feature.declared (feature : Feature σ) : Feature σ := { feature with counter := default }

namespace Draft

/-- The name of the main stage. -/
def key (draft : Draft σ) (signature : Signature) : String :=
  draft.verbName ++ ":" ++ signature.pattern

/-- **A draft becomes a feature**: all of its phases succeed, and the feature is what was
declared. -/
structure Compiles (draft : Draft σ) (service : String) (base : List String)
    (feature : Feature σ) : Prop where
  service : feature.service = service
  verb : draft.verb? = .ok feature.verb
  signature : Signature.read base draft.signature = .ok feature.signature
  access : feature.access = draft.access
  description : feature.description = draft.description
  handler : draft.handler = some feature.main.handler
  key : feature.main.name = draft.key feature.signature
  plan : Plan.ofParameters draft.parameters feature.signature = .ok feature.main.plan
  prologues : List.Forall₂ (StageDraft.Compiles feature.signature) draft.prologues feature.prologues
  epilogues : List.Forall₂ (StageDraft.Compiles feature.signature) draft.epilogues feature.epilogues
  counter : feature.counter = default

/-- **A draft fails**, in the first phase that does not succeed. -/
inductive Fails (draft : Draft σ) (base : List String) : FeatureFault → Prop where
  | verb (notAny : draft.verbName ≠ "*") (unknown : Verb.ofName? draft.verbName = none) :
      Fails draft base (.invalidVerb draft.verbName)
  | signature {verb : Option Verb} {fault : SignatureFault} (known : draft.verb? = .ok verb)
      (unread : Signature.read base draft.signature = .error fault) :
      Fails draft base (.invalidSignature draft.signature fault.message)
  | handler {verb : Option Verb} {signature : Signature} (known : draft.verb? = .ok verb)
      (read : Signature.read base draft.signature = .ok signature)
      (missing : draft.handler = none) : Fails draft base (.missingHandler (draft.key signature))
  | main {verb : Option Verb} {signature : Signature} {handler : Handler σ} {fault : FeatureFault}
      (known : draft.verb? = .ok verb) (read : Signature.read base draft.signature = .ok signature)
      (given : draft.handler = some handler)
      (unplanned : Plan.ofParameters draft.parameters signature = .error fault) :
      Fails draft base fault
  | prologue {verb : Option Verb} {signature : Signature} {handler : Handler σ} {plan : Plan}
      {fault : FeatureFault} (known : draft.verb? = .ok verb)
      (read : Signature.read base draft.signature = .ok signature)
      (given : draft.handler = some handler)
      (planned : Plan.ofParameters draft.parameters signature = .ok plan)
      (fails : StageDraft.Verdict signature draft.prologues (.error fault)) :
      Fails draft base fault
  | epilogue {verb : Option Verb} {signature : Signature} {handler : Handler σ} {plan : Plan}
      {prologues : List (Stage σ)} {fault : FeatureFault} (known : draft.verb? = .ok verb)
      (read : Signature.read base draft.signature = .ok signature)
      (given : draft.handler = some handler)
      (planned : Plan.ofParameters draft.parameters signature = .ok plan)
      (before : StageDraft.Verdict signature draft.prologues (.ok prologues))
      (fails : StageDraft.Verdict signature draft.epilogues (.error fault)) :
      Fails draft base fault

variable {draft : Draft σ} {service : String} {base : List String} {counter : Counter}

/-! The phases one by one, as far as a draft gets. -/

theorem build_of_unread {verb : Option Verb} {fault : SignatureFault}
    (known : draft.verb? = .ok verb)
    (unread : Signature.read base draft.signature = .error fault) :
    draft.build service base counter
      = .error (.invalidSignature draft.signature fault.message) := by
  simp only [build, known, unread]
  rfl

theorem build_of_missing {verb : Option Verb} {signature : Signature}
    (known : draft.verb? = .ok verb) (read : Signature.read base draft.signature = .ok signature)
    (missing : draft.handler = none) :
    draft.build service base counter = .error (.missingHandler (draft.key signature)) := by
  simp only [build, known, read, missing]
  rfl

/-- A draft with a verb, a signature and a handler depends on its stages alone. -/
theorem build_of_given {verb : Option Verb} {signature : Signature} {handler : Handler σ}
    (known : draft.verb? = .ok verb) (read : Signature.read base draft.signature = .ok signature)
    (given : draft.handler = some handler) :
    draft.build service base counter = (do
      let main ← StageDraft.build
        { name := draft.key signature, parameters := draft.parameters, handler } signature
      let prologues ← StageDraft.buildAll signature draft.prologues
      let epilogues ← StageDraft.buildAll signature draft.epilogues
      return { service, verb, signature, access := draft.access, description := draft.description
               prologues, main, epilogues, counter }) := by
  simp only [build, known, read, given]
  rfl

/-- The main stage of a draft with a plan. -/
theorem build_main {signature : Signature} {plan : Plan} (handler : Handler σ)
    (planned : Plan.ofParameters draft.parameters signature = .ok plan) :
    StageDraft.build { name := draft.key signature, parameters := draft.parameters, handler }
      signature = .ok { name := draft.key signature, plan, handler } :=
  StageDraft.build_eq_ok_iff.mp ⟨rfl, rfl, planned⟩

/-- **A draft that compiles is built**, with the counter that it is given. -/
theorem Compiles.build_eq {feature : Feature σ} (compiles : draft.Compiles service base feature) :
    draft.build service base counter = .ok { feature with counter } := by
  have prologues := StageDraft.verdict_iff.mp (.done compiles.prologues)
  have epilogues := StageDraft.verdict_iff.mp (.done compiles.epilogues)
  rw [build_of_given compiles.verb compiles.signature compiles.handler,
    build_main _ compiles.plan, prologues, epilogues, ← compiles.key]
  obtain ⟨rfl, -, -, access, description, -, -, -, -, -, -⟩ := compiles
  rw [← access, ← description]
  rfl

/-- **A draft that fails is not built**, whatever counter it is given. -/
theorem Fails.build_eq {fault : FeatureFault} (fails : draft.Fails base fault) :
    draft.build service base counter = .error fault := by
  cases fails with
  | verb notAny unknown =>
    have refused : draft.verb? = .error (.invalidVerb draft.verbName) := by
      simp only [verb?, if_neg notAny, unknown]
    simp only [build, refused]
    rfl
  | signature known unread => exact build_of_unread known unread
  | handler known read missing => exact build_of_missing known read missing
  | main known read given unplanned =>
    rw [build_of_given known read given,
      StageDraft.build_eq_error_iff.mp (show StageDraft.Fails _ ⟨_, _, _⟩ _ from unplanned)]
    rfl
  | prologue known read given planned fails =>
    rw [build_of_given known read given, build_main _ planned, StageDraft.verdict_iff.mp fails]
    rfl
  | epilogue known read given planned before fails =>
    rw [build_of_given known read given, build_main _ planned, StageDraft.verdict_iff.mp before,
      StageDraft.verdict_iff.mp fails]
    rfl

theorem unknown_of_verb? {fault : FeatureFault} (refused : draft.verb? = .error fault) :
    draft.verbName ≠ "*" ∧ Verb.ofName? draft.verbName = none := by
  unfold verb? at refused
  generalize draft.verbName = name at refused ⊢
  by_cases isAny : name = "*"
  · rw [if_pos isAny] at refused
    cases refused
  · rw [if_neg isAny] at refused
    refine ⟨isAny, ?_⟩
    cases known : Verb.ofName? name with
    | none => rfl
    | some verb =>
      rw [known] at refused
      cases refused

/-- A draft compiles, or it fails. -/
theorem compiles_or_fails (draft : Draft σ) (service : String) (base : List String) :
    (∃ feature, draft.Compiles service base feature) ∨ ∃ fault, draft.Fails base fault := by
  cases known : draft.verb? with
  | error fault =>
    obtain ⟨notAny, unknown⟩ := unknown_of_verb? known
    exact Or.inr ⟨_, .verb notAny unknown⟩
  | ok verb =>
    cases read : Signature.read base draft.signature with
    | error fault => exact Or.inr ⟨_, .signature known read⟩
    | ok signature =>
      cases given : draft.handler with
      | none => exact Or.inr ⟨_, .handler known read given⟩
      | some handler =>
        cases planned : Plan.ofParameters draft.parameters signature with
        | error fault => exact Or.inr ⟨_, .main known read given planned⟩
        | ok plan =>
          have before := StageDraft.verdict_iff.mpr (rfl : _ = StageDraft.buildAll signature
            draft.prologues)
          have after := StageDraft.verdict_iff.mpr (rfl : _ = StageDraft.buildAll signature
            draft.epilogues)
          generalize StageDraft.buildAll signature draft.prologues = prologues at before
          generalize StageDraft.buildAll signature draft.epilogues = epilogues at after
          rcases prologues with fault | prologues
          · exact Or.inr ⟨_, .prologue known read given planned before⟩
          rcases epilogues with fault | epilogues
          · exact Or.inr ⟨_, .epilogue known read given planned before after⟩
          exact Or.inl
            ⟨{ service, verb, signature, access := draft.access
               description := draft.description, prologues, epilogues, counter := default
               main := { name := draft.key signature, plan, handler } },
              { service := rfl, verb := known, signature := read, access := rfl
                description := rfl, handler := given, key := rfl, plan := planned
                prologues := before.each, epilogues := after.each, counter := rfl }⟩

/-- What a draft is built to, without a counter. -/
def declare (draft : Draft σ) (service : String) (base : List String) :
    Except FeatureFault (Feature σ) :=
  (draft.build service base default).map Feature.declared

theorem Compiles.declare_eq {feature : Feature σ} (compiles : draft.Compiles service base feature) :
    draft.declare service base = .ok feature := by
  unfold declare
  rw [compiles.build_eq]
  show Except.ok { feature with counter := default } = _
  rw [← compiles.counter]

theorem Fails.declare_eq {fault : FeatureFault} (fails : draft.Fails base fault) :
    draft.declare service base = .error fault := by
  unfold declare
  rw [fails.build_eq]
  rfl

/-- **What a draft is built to.** -/
theorem compiles_iff {feature : Feature σ} :
    draft.Compiles service base feature ↔ draft.declare service base = .ok feature := by
  refine ⟨Compiles.declare_eq, fun built => ?_⟩
  rcases draft.compiles_or_fails service base with ⟨other, compiles⟩ | ⟨fault, fails⟩
  · cases compiles.declare_eq.symm.trans built
    exact compiles
  · cases fails.declare_eq.symm.trans built

/-- **Why a draft is not built.** -/
theorem fails_iff {fault : FeatureFault} :
    draft.Fails base fault ↔ draft.declare service base = .error fault := by
  refine ⟨Fails.declare_eq, fun failed => ?_⟩
  rcases draft.compiles_or_fails service base with ⟨other, compiles⟩ | ⟨fault, fails⟩
  · cases compiles.declare_eq.symm.trans failed
  · cases fails.declare_eq.symm.trans failed
    exact fails

end Draft

/-! ### Services -/

namespace Service

/-- **What comes of a service**: the features of all its drafts in order, or the fault of the first
draft that fails. -/
abbrev Verdict (service : Service σ) : Except FeatureFault (List (Feature σ)) → Prop :=
  Traversed (fun draft => draft.Compiles service.name service.baseSegments)
    (fun draft => draft.Fails service.baseSegments) service.drafts

theorem buildFrom_declared (service : Service σ) (place : String) (drafts : List (Draft σ)) :
    ∀ number, (service.buildFrom place number drafts).map (List.map Feature.declared)
      = drafts.mapM (Draft.declare · service.name service.baseSegments) := by
  induction drafts with
  | nil => exact fun _ => rfl
  | cons draft rest ih =>
    intro number
    unfold buildFrom
    rcases draft.compiles_or_fails service.name service.baseSegments with
      ⟨feature, compiles⟩ | ⟨fault, fails⟩
    · rw [compiles.build_eq, mapM_cons_of_ok (Draft.declare · service.name service.baseSegments)
        compiles.declare_eq, ← ih (number + 1)]
      have declared : feature.declared = feature := by
        unfold Feature.declared
        rw [← compiles.counter]
      simp only
      cases service.buildFrom place (number + 1) rest with
      | error fault => rfl
      | ok others =>
        show Except.ok (feature.declared :: _) = _
        rw [declared]
        rfl
    · rw [fails.build_eq, mapM_cons_of_error (Draft.declare · service.name service.baseSegments)
        fails.declare_eq]
      rfl

/-- **What a service is built to** does not depend on the place and the numbers of its counters. -/
theorem verdict_iff {service : Service σ} {result : Except FeatureFault (List (Feature σ))}
    (place : String) (number : Nat) : service.Verdict result ↔
      (service.build place number).map (List.map Feature.declared) = result := by
  unfold build
  rw [buildFrom_declared]
  exact traversed_iff (Draft.declare · service.name service.baseSegments)
    (fun _ _ => Draft.compiles_iff) fun _ _ => Draft.fails_iff

end Service

end Switchboard
