import Switchboard.Feature.Basic
import Switchboard.Proofs.Activity.Log
import Switchboard.Proofs.Feature.Extraction
/-!
The stages that a feature runs, and what each of them can read.

`Feature.loggedExecute` is `Feature.execute` with a note before every stage that runs: which stage
it is, in which circumstances, and what its arguments are taken from. `plain_loggedExecute` says
that the notes are all that was added.

The arguments of a stage are taken from the request and from the response before it. A request whose
body is in memory survives this, up to what its body keeps: `Stage.run_request`. So all stages of a
feature read one and the same request (`Feature.of_mem_events_loggedExecute`), and there is a first
one in every run (`Feature.exists_mem_events_loggedExecute`).
-/

namespace Switchboard

/-- A stage that a feature runs: what its arguments are taken from, in which circumstances. -/
structure StageRun (σ : Type) where
  feature : Feature σ
  stage : Stage σ
  context : Context
  pending : Pending

variable {σ : Type}

/-! ### Requests survive their stages -/

/-- **A stage leaves a request in memory as it is**, up to what its body keeps, whether its arguments
are found or not. -/
theorem Stage.run_request (stage : Stage σ) (context : Context) {pending after : Pending}
    (inMemory : pending.request.isCloneable = true) {scope : Scope} {world : World σ}
    {response : Message}
    (done : (stage.run context pending scope world).1 = .done (response, after)) :
    after.request.fresh = pending.request.fresh := by
  have kept := stage.plan.fresh_extract context inMemory
  unfold run at done
  rcases found : stage.plan.extract context pending with ⟨fault | arguments, left⟩
  · rw [found] at kept done
    cases done
    exact kept
  · rw [found] at kept done
    obtain ⟨outcome, _, rest⟩ := Activity.bind_done_iff.mp done
    cases rest
    exact kept

/-! ### Running with notes -/

namespace Feature

/-- Runs a stage and notes it. -/
def loggedStage (feature : Feature σ) (stage : Stage σ) (context : Context) (pending : Pending) :
    Logged (StageRun σ) σ (Message × Pending) := do
  Logged.note fun _ _ => { feature, stage, context, pending }
  Logged.of (stage.run context pending)

/-- Runs prologues and notes them. -/
def loggedPrologues (feature : Feature σ) (context : Context) :
    List (Stage σ) → Message → Logged (StageRun σ) σ (Except Message Message)
  | [], request => return .ok request
  | stage :: rest, request => do
    let (response, pending) ← feature.loggedStage stage context { request, previous := none }
    if response.isSuccess then loggedPrologues feature context rest pending.request
    else return .error response

/-- Runs epilogues and notes them. -/
def loggedEpilogues (feature : Feature σ) (context : Context) :
    List (Stage σ) → Message → Message → Logged (StageRun σ) σ Message
  | [], _, response => return response
  | stage :: rest, request, response => do
    let (response, pending) ←
      feature.loggedStage stage context { request, previous := some response }
    loggedEpilogues feature context rest pending.request response

/-- Runs all stages of a feature and notes them. -/
def loggedExecute (feature : Feature σ) (context : Context) (request : Message) :
    Logged (StageRun σ) σ Message := do
  Logged.of (Activity.countHit feature.counter)
  match ← feature.loggedPrologues context feature.prologues request with
  | .error response => return response
  | .ok request =>
    let (response, pending) ←
      feature.loggedStage feature.main context { request, previous := none }
    feature.loggedEpilogues context feature.epilogues pending.request response

/-! ### The notes are all that was added -/

@[simp] theorem plain_loggedStage (feature : Feature σ) (stage : Stage σ) (context : Context)
    (pending : Pending) :
    (feature.loggedStage stage context pending).plain = stage.run context pending := rfl

theorem plain_loggedPrologues (feature : Feature σ) (context : Context)
    (stages : List (Stage σ)) : ∀ request,
      (feature.loggedPrologues context stages request).plain
        = runPrologues context stages request := by
  induction stages with
  | nil => exact fun _ => rfl
  | cons stage rest ih =>
    intro request
    simp only [loggedPrologues, runPrologues, Logged.plain_bind, plain_loggedStage]
    congr 1
    funext ran
    rcases ran with ⟨response, pending⟩
    split
    · exact ih _
    · rfl

theorem plain_loggedEpilogues (feature : Feature σ) (context : Context)
    (stages : List (Stage σ)) : ∀ request response,
      (feature.loggedEpilogues context stages request response).plain
        = runEpilogues context stages request response := by
  induction stages with
  | nil => exact fun _ _ => rfl
  | cons stage rest ih =>
    intro request response
    simp only [loggedEpilogues, runEpilogues, Logged.plain_bind, plain_loggedStage]
    congr 1
    funext ran
    rcases ran with ⟨response, pending⟩
    exact ih _ _

/-- **Without its notes, `loggedExecute` is `execute`.** -/
theorem plain_loggedExecute (feature : Feature σ) (context : Context) (request : Message) :
    (feature.loggedExecute context request).plain = feature.execute context request := by
  simp only [loggedExecute, execute, Logged.plain_bind, Logged.plain_of, plain_loggedPrologues]
  congr 1
  funext _
  congr 1
  funext outcome
  cases outcome with
  | error response => rfl
  | ok request =>
    simp only [Logged.plain_bind, plain_loggedStage]
    congr 1
    funext ran
    rcases ran with ⟨response, pending⟩
    exact plain_loggedEpilogues _ _ _ _ _

/-! ### What every stage reads -/

theorem events_loggedStage (feature : Feature σ) (stage : Stage σ) (context : Context)
    (pending : Pending) (scope : Scope) (world : World σ) :
    (feature.loggedStage stage context pending).events scope world
      = [{ feature, stage, context, pending }] := rfl

/-- What all stages of one run have in common: their requests differ in no more than what their bodies
keep. -/
def Shares (feature : Feature σ) (context : Context) (request : Message) (run : StageRun σ) :
    Prop :=
  run.feature = feature ∧ run.context = context ∧ run.pending.request.fresh = request.fresh

/-- What stages have in common does not depend on what the body of the request keeps. -/
theorem Shares.congr {feature : Feature σ} {context : Context} {one other : Message}
    {run : StageRun σ} (shares : Shares feature context one run) (same : one.fresh = other.fresh) :
    Shares feature context other run :=
  ⟨shares.1, shares.2.1, shares.2.2.trans same⟩

theorem of_mem_events_loggedPrologues (feature : Feature σ) (context : Context)
    (stages : List (Stage σ)) (scope : Scope) :
    ∀ {request : Message}, request.isCloneable = true → ∀ world,
      (∀ run ∈ (feature.loggedPrologues context stages request).events scope world,
        Shares feature context request run) ∧
      ∀ left, ((feature.loggedPrologues context stages request).plain scope world).1
        = .done (.ok left) → left.fresh = request.fresh := by
  induction stages with
  | nil =>
    refine fun _ world => ⟨fun run member => (nomatch member), fun left done => ?_⟩
    cases done
    rfl
  | cons stage rest ih =>
    intro request inMemory world
    simp only [loggedPrologues]
    constructor
    · intro run member
      rcases Logged.mem_events_bind.mp member with first | ⟨⟨response, pending⟩, done, later⟩
      · rw [events_loggedStage, List.mem_singleton] at first
        subst first
        exact ⟨rfl, rfl, rfl⟩
      · have kept : pending.request.fresh = request.fresh := stage.run_request context inMemory done
        have stillThere := (Message.isCloneable_congr kept).trans inMemory
        simp only at later
        split at later
        · exact ((ih stillThere _).1 run later).congr kept
        · cases later
    · intro left done
      rw [Logged.plain_bind] at done
      obtain ⟨⟨response, pending⟩, first, rest'⟩ := Activity.bind_done_iff.mp done
      have kept : pending.request.fresh = request.fresh := stage.run_request context inMemory first
      have stillThere := (Message.isCloneable_congr kept).trans inMemory
      simp only at rest'
      split at rest'
      · exact ((ih stillThere _).2 left rest').trans kept
      · cases rest'

theorem of_mem_events_loggedEpilogues (feature : Feature σ) (context : Context)
    (stages : List (Stage σ)) (scope : Scope) :
    ∀ {request : Message}, request.isCloneable = true → ∀ response world,
      ∀ run ∈ (feature.loggedEpilogues context stages request response).events scope world,
        Shares feature context request run := by
  induction stages with
  | nil => exact fun _ _ _ run member => nomatch member
  | cons stage rest ih =>
    intro request inMemory response world run member
    simp only [loggedEpilogues] at member
    rcases Logged.mem_events_bind.mp member with first | ⟨⟨answer, pending⟩, done, later⟩
    · rw [events_loggedStage, List.mem_singleton] at first
      subst first
      exact ⟨rfl, rfl, rfl⟩
    · have kept : pending.request.fresh = request.fresh := stage.run_request context inMemory done
      have stillThere := (Message.isCloneable_congr kept).trans inMemory
      exact (ih stillThere _ _ run later).congr kept

/-- **All stages of a feature read one request**: the one that the feature is executed for. -/
theorem of_mem_events_loggedExecute {feature : Feature σ} {context : Context} {request : Message}
    (inMemory : request.isCloneable = true) {scope : Scope} {world : World σ} {run : StageRun σ}
    (member : run ∈ (feature.loggedExecute context request).events scope world) :
    Shares feature context request run := by
  rcases Logged.mem_events_bind.mp member with none | ⟨_, _, afterHit⟩
  · cases none
  · have prologues := of_mem_events_loggedPrologues feature context feature.prologues scope inMemory
    rcases Logged.mem_events_bind.mp afterHit with early | ⟨outcome, done, late⟩
    · exact (prologues _).1 run early
    · cases outcome with
      | error response => cases late
      | ok left =>
        have kept : left.fresh = request.fresh := (prologues _).2 left done
        have stillThere := (Message.isCloneable_congr kept).trans inMemory
        rcases Logged.mem_events_bind.mp late with main | ⟨⟨response, pending⟩, ran, last⟩
        · rw [events_loggedStage, List.mem_singleton] at main
          subst main
          exact ⟨rfl, rfl, kept⟩
        · have keptByMain : pending.request.fresh = left.fresh :=
            feature.main.run_request context stillThere ran
          have thereAfterMain := (Message.isCloneable_congr keptByMain).trans stillThere
          exact (of_mem_events_loggedEpilogues feature context _ scope thereAfterMain _ _ run
            last).congr (keptByMain.trans kept)

/-- **Some stage runs** whenever a feature is executed: its first prologue, or the main stage. -/
theorem exists_mem_events_loggedExecute (feature : Feature σ) (context : Context)
    (request : Message) (scope : Scope) (world : World σ) :
    ∃ run, run ∈ (feature.loggedExecute context request).events scope world := by
  cases prologues : feature.prologues with
  | nil =>
    refine ⟨{ feature, stage := feature.main, context, pending := { request, previous := none } },
      Logged.mem_events_bind.mpr (Or.inr ⟨(), rfl, ?_⟩)⟩
    rw [prologues]
    exact Logged.mem_events_bind.mpr (Or.inr ⟨.ok request, rfl,
      Logged.mem_events_bind.mpr (Or.inl (List.mem_singleton.mpr rfl))⟩)
  | cons stage rest =>
    refine ⟨{ feature, stage, context, pending := { request, previous := none } },
      Logged.mem_events_bind.mpr (Or.inr ⟨(), rfl, ?_⟩)⟩
    rw [prologues]
    exact Logged.mem_events_bind.mpr (Or.inl
      (Logged.mem_events_bind.mpr (Or.inl (List.mem_singleton.mpr rfl))))

end Feature

end Switchboard
