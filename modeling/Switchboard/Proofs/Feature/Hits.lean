import Switchboard.Feature.Basic
import Switchboard.Proofs.Activity.Frame
/-!
What a feature counts, and what its stages leave as it is.

A feature counts one hit and then runs its stages. What its handlers leave as it is, all of its
stages do; and if no handler counts anything, then that one hit is all that is counted.

* `Feature.execute_apply`: a feature runs its stages in a world with one more hit.
* `Feature.runStages_keeps`: the stages keep a frame if their handlers do.
-/

namespace Switchboard

variable {σ : Type} {related : World σ → World σ → Prop}

/-- A world with one more hit. -/
def World.hit (world : World σ) (counter : Counter) : World σ :=
  { world with
    hits := fun other => if other = counter then world.hits other + 1 else world.hits other }

/-- Nothing was counted between two worlds. -/
def World.SameHits (before after : World σ) : Prop := after.hits = before.hits

instance : World.Frame (World.SameHits : World σ → World σ → Prop) where
  refl _ := rfl
  trans _ _ _ first second := second.trans first
  tick _ _ := rfl

theorem World.hits_hit (world : World σ) (counter other : Counter) :
    (world.hit counter).hits other = world.hits other + if other = counter then 1 else 0 := by
  unfold hit
  by_cases same : other = counter
  · simp only [if_pos same]
  · simp only [if_neg same, UInt64.add_zero]

/-- A stage keeps a frame if its handler does. -/
theorem Stage.run_keeps [World.Frame related] {stage : Stage σ}
    (keeps : ∀ arguments, (stage.handler arguments).Keeps related) (context : Context)
    (pending : Pending) : (stage.run context pending).Keeps related := by
  unfold run
  split
  · exact .pure _
  · exact .bind (keeps _).attempt fun _ => .pure _

namespace Feature

/-- The handlers of a feature keep a frame. -/
def Keeps (feature : Feature σ) (related : World σ → World σ → Prop) : Prop :=
  ∀ stage ∈ feature.prologues ++ feature.main :: feature.epilogues, ∀ arguments,
    (stage.handler arguments).Keeps related

/-- Runs all stages of a feature and counts nothing. -/
def runStages (feature : Feature σ) (context : Context) (request : Message) :
    Activity σ Message := do
  match ← runPrologues context feature.prologues request with
  | .error response => return response
  | .ok request =>
    let (response, pending) ← feature.main.run context { request, previous := none }
    runEpilogues context feature.epilogues pending.request response

/-- **A feature counts one hit and runs its stages.** -/
theorem execute_apply (feature : Feature σ) (context : Context) (request : Message) (scope : Scope)
    (world : World σ) : feature.execute context request scope world
      = feature.runStages context request scope (world.hit feature.counter) := rfl

variable [World.Frame related]

theorem runPrologues_keeps {stages : List (Stage σ)}
    (keeps : ∀ stage ∈ stages, ∀ arguments, (stage.handler arguments).Keeps related)
    (context : Context) (request : Message) :
    (runPrologues context stages request).Keeps related := by
  induction stages generalizing request with
  | nil => exact .pure _
  | cons stage rest ih =>
    refine .bind (Stage.run_keeps (keeps stage List.mem_cons_self) context _) fun ran => ?_
    obtain ⟨response, pending⟩ := ran
    by_cases success : response.isSuccess = true
    · simp only [if_pos success]
      exact ih (fun other member => keeps other (List.mem_cons_of_mem _ member)) pending.request
    · simp only [if_neg success]
      exact .pure _

theorem runEpilogues_keeps {stages : List (Stage σ)}
    (keeps : ∀ stage ∈ stages, ∀ arguments, (stage.handler arguments).Keeps related)
    (context : Context) (request response : Message) :
    (runEpilogues context stages request response).Keeps related := by
  induction stages generalizing request response with
  | nil => exact .pure _
  | cons stage rest ih =>
    refine .bind (Stage.run_keeps (keeps stage List.mem_cons_self) context _) fun ran => ?_
    exact ih (fun other member => keeps other (List.mem_cons_of_mem _ member)) _ _

/-- **The stages of a feature keep a frame if their handlers do.** -/
theorem runStages_keeps {feature : Feature σ} (keeps : feature.Keeps related) (context : Context)
    (request : Message) : (feature.runStages context request).Keeps related := by
  have prologues : ∀ stage ∈ feature.prologues, ∀ arguments,
      (stage.handler arguments).Keeps related :=
    fun stage member => keeps stage (List.mem_append_left _ member)
  have main : ∀ arguments, (feature.main.handler arguments).Keeps related :=
    keeps feature.main (List.mem_append_right _ List.mem_cons_self)
  have epilogues : ∀ stage ∈ feature.epilogues, ∀ arguments,
      (stage.handler arguments).Keeps related :=
    fun stage member => keeps stage (List.mem_append_right _ (List.mem_cons_of_mem _ member))
  unfold runStages
  refine .bind (runPrologues_keeps prologues context request) fun outcome => ?_
  cases outcome with
  | error response => exact .pure _
  | ok request =>
    refine .bind (Stage.run_keeps main context _) fun ran => ?_
    exact runEpilogues_keeps epilogues context _ _

end Feature

end Switchboard
