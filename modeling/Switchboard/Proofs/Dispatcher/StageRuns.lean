import Switchboard.Dispatcher
import Switchboard.Proofs.Activity.Clock
import Switchboard.Proofs.Feature.StageRuns
/-!
What a dispatcher runs for a request.

* `Dispatcher.gate_admitted_iff` says when a request is admitted to a feature: the feature is the
  one that is selected, the caller has the access, the body was read into memory, and the length that
  is told of it is within the limit.
* `Dispatcher.stageRuns` are the stages that a dispatcher runs for a request; by
  `plain_loggedDispatch` they are noted on what `Dispatcher.dispatch` does.
* `Dispatcher.of_mem_stageRuns` and `Dispatcher.exists_mem_stageRuns`: they are stages of the feature
  that the request is admitted to, all of them read the request as it was admitted, and there is one
  if a request is admitted and the time for its body is there.
-/

namespace Switchboard.Dispatcher

variable {σ : Type}

/-! ### The gate -/

/-- **When a request is admitted.** -/
theorem gate_admitted_iff {dispatcher : Dispatcher σ} {verb : Verb} {uri : Uri}
    {request memorized : Message} {granted : Access} {feature : Feature σ} {context : Context}
    {spent : Span} :
    dispatcher.gate verb uri request granted = (.admitted feature context memorized, spent) ↔
      dispatcher.select verb uri.segments = some feature ∧
      granted.permits feature.access = true ∧
      request.memorize dispatcher.settings.maxBytes dispatcher.settings.bodyTimeout
        = (.ok (), memorized, spent) ∧
      memorized.contentLength?.any (dispatcher.settings.maxBytes < ·) = false ∧
      context = contextOf feature verb uri granted := by
  unfold gate
  constructor
  · intro admitted
    split at admitted
    · cases admitted
    · rename_i chosen selected
      split at admitted
      · rename_i permitted
        simp only at admitted
        split at admitted
        · cases admitted
        · rename_i read
          split at admitted
          · cases admitted
          · rename_i told
            cases admitted
            exact ⟨selected, permitted, read, Bool.eq_false_iff.mpr told, rfl⟩
      · cases admitted
  · rintro ⟨selected, permitted, read, told, rfl⟩
    simp only [selected, permitted, read, told]
    rfl

/-- What is admitted is in memory. -/
theorem isCloneable_of_gate {dispatcher : Dispatcher σ} {verb : Verb} {uri : Uri}
    {request memorized : Message} {granted : Access} {feature : Feature σ} {context : Context}
    {spent : Span}
    (admitted : dispatcher.gate verb uri request granted
      = (.admitted feature context memorized, spent)) : memorized.isCloneable = true :=
  Message.isCloneable_of_memorize (gate_admitted_iff.mp admitted).2.2.1

/-! ### Stages that run -/

/-- Answers a request and notes the stages that run for it. -/
def loggedDispatch (dispatcher : Dispatcher σ) (verb : Verb) (uri : Uri) (request : Message)
    (granted : Access) : Logged (StageRun σ) σ Message := do
  let (admission, spent) := dispatcher.gate verb uri request granted
  Logged.of (Activity.wait spent)
  match admission with
  | .refused response => return response
  | .admitted feature context request => feature.loggedExecute context request

/-- **Without its notes, `loggedDispatch` is `dispatch`.** -/
theorem plain_loggedDispatch (dispatcher : Dispatcher σ) (verb : Verb) (uri : Uri)
    (request : Message) (granted : Access) :
    (dispatcher.loggedDispatch verb uri request granted).plain
      = dispatcher.dispatch verb uri request granted := by
  unfold loggedDispatch dispatch
  rcases dispatcher.gate verb uri request granted with ⟨admission, spent⟩
  simp only [Logged.plain_bind, Logged.plain_of]
  congr 1
  funext _
  cases admission with
  | refused response => rfl
  | admitted feature context request => exact feature.plain_loggedExecute context request

/-- The stages that a dispatcher runs for a request, in order. -/
def stageRuns (dispatcher : Dispatcher σ) (verb : Verb) (uri : Uri) (request : Message)
    (granted : Access) (scope : Scope) (world : World σ) : List (StageRun σ) :=
  (dispatcher.loggedDispatch verb uri request granted).events scope world

/-- **A stage runs only for a request that is admitted**, and it is a stage of the feature that the
request is admitted to and reads the request as it was admitted. -/
theorem of_mem_stageRuns {dispatcher : Dispatcher σ} {verb : Verb} {uri : Uri} {request : Message}
    {granted : Access} {scope : Scope} {world : World σ} {run : StageRun σ}
    (member : run ∈ dispatcher.stageRuns verb uri request granted scope world) :
    ∃ feature context memorized spent,
      dispatcher.gate verb uri request granted = (.admitted feature context memorized, spent) ∧
      scope.Reaches (world.now + spent) ∧ feature.Shares context memorized run := by
  unfold stageRuns loggedDispatch at member
  rcases admits : dispatcher.gate verb uri request granted with ⟨admission, spent⟩
  simp only [admits] at member
  rcases Logged.mem_events_bind.mp member with none | ⟨_, waited, later⟩
  · cases none
  · cases admission with
    | refused response => cases later
    | admitted feature context memorized =>
      exact ⟨feature, context, memorized, spent, rfl, Activity.wait_done_iff.mp waited,
        Feature.of_mem_events_loggedExecute (isCloneable_of_gate admits) later⟩

/-- **A stage runs for every request that is admitted**, if its body arrives by the deadline. -/
theorem exists_mem_stageRuns {dispatcher : Dispatcher σ} {verb : Verb} {uri : Uri}
    {request memorized : Message} {granted : Access} {feature : Feature σ} {context : Context}
    {spent : Span} {scope : Scope} {world : World σ}
    (admitted : dispatcher.gate verb uri request granted
      = (.admitted feature context memorized, spent))
    (reaches : scope.Reaches (world.now + spent)) :
    ∃ run, run ∈ dispatcher.stageRuns verb uri request granted scope world ∧
      feature.Shares context memorized run := by
  unfold stageRuns loggedDispatch
  simp only [admitted]
  have waited := Activity.wait_of_reaches reaches
  obtain ⟨run, member⟩ := feature.exists_mem_events_loggedExecute context memorized scope
    (Activity.wait spent scope world).2
  refine ⟨run, Logged.mem_events_bind.mpr (Or.inr ⟨(), ?_, member⟩),
    Feature.of_mem_events_loggedExecute (isCloneable_of_gate admitted) member⟩
  exact congrArg Prod.fst waited

end Switchboard.Dispatcher
