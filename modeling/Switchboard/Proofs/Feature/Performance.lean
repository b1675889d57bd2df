import Mathlib.Data.List.Chain
import Switchboard.Proofs.Activity.Returns
import Switchboard.Proofs.Feature.Hits
import Switchboard.Proofs.Feature.Turns
/-!
How a feature is performed, stage by stage.

A stage answers, whatever its handler does: with the response of the handler, or with one that
explains why there is none. Only a handler that still waits when the deadline comes, or that goes on
for ever, keeps its stage from answering. After a stage the next one is performed, unless the stage
is a prologue that does not succeed.

* `Stage.Performs`: what one stage can come to.
* `Row`: stages that are performed one after the other, up to the first after which nothing is.
* `Feature.execute_performed`: what comes of a feature.
-/

namespace Switchboard

variable {σ : Type}

/-! ### Success and failure -/

/-- A message tells of a success. -/
def Message.Succeeds (message : Message) : Prop :=
  200 ≤ message.status.code ∧ message.status.code < 300

instance (message : Message) : Decidable message.Succeeds :=
  inferInstanceAs (Decidable (200 ≤ message.status.code ∧ message.status.code < 300))

theorem Message.isSuccess_iff (message : Message) :
    message.isSuccess = true ↔ message.Succeeds := by
  unfold isSuccess Status.isSuccess Succeeds
  rw [Bool.and_eq_true, decide_eq_true_iff, decide_eq_true_iff]

/-- **What a fault is turned into**: it is the fault of the caller just if an argument is bad. -/
theorem FeatureFault.code_response (fault : FeatureFault) :
    fault.response.status.code = match fault with
      | .badArgument _ _ => 400
      | _ => 500 := by
  unfold response
  rw [Message.status_explain]
  cases fault <;> rfl

/-! ### One stage -/

/-- **How a stage is performed**: how it ends, with an answer if it has one, and the world that it
leaves. -/
inductive Stage.Performs (stage : Stage σ) (context : Context) (scope : Scope) (given : Pending)
    (before : World σ) : Ending Message → World σ → Prop where
  /-- The arguments are not found, and the handler does not run. -/
  | unbound {fault : FeatureFault} (failed : (stage.plan.extract context given).1 = .error fault) :
      Performs stage context scope given before (.done fault.response) before
  | answers {arguments : Arguments} {response : Message} {after : World σ}
      (bound : (stage.plan.extract context given).1 = .ok arguments)
      (ran : stage.handler arguments scope before = (.done (.ok response), after)) :
      Performs stage context scope given before (.done response) after
  | fails {arguments : Arguments} {fault : FeatureFault} {after : World σ}
      (bound : (stage.plan.extract context given).1 = .ok arguments)
      (ran : stage.handler arguments scope before = (.done (.error fault), after)) :
      Performs stage context scope given before (.done fault.response) after
  | breaksOff {arguments : Arguments} {panic : Panic} {after : World σ}
      (bound : (stage.plan.extract context given).1 = .ok arguments)
      (ran : stage.handler arguments scope before = (.panicked panic, after)) :
      Performs stage context scope given before
        (.done (FeatureFault.handler (panic.words.getD silentPanic)).response) after
  /-- The handler still waits when the deadline comes. -/
  | waits {arguments : Arguments} {after : World σ}
      (bound : (stage.plan.extract context given).1 = .ok arguments)
      (ran : stage.handler arguments scope before = (.expired, after)) :
      Performs stage context scope given before .expired after
  /-- The handler goes on for ever. -/
  | spins {arguments : Arguments} {after : World σ}
      (bound : (stage.plan.extract context given).1 = .ok arguments)
      (ran : stage.handler arguments scope before = (.endless, after)) :
      Performs stage context scope given before .endless after

/-- A stage does not break off. -/
theorem Stage.Performs.answers_or_not {stage : Stage σ} {context : Context} {scope : Scope}
    {given : Pending} {before after : World σ} {ending : Ending Message}
    (performs : stage.Performs context scope given before ending after) :
    (ending = .expired ∨ ending = .endless) ∨ ∃ response, ending = .done response := by
  cases performs with
  | unbound | answers | fails | breaksOff => exact Or.inr ⟨_, rfl⟩
  | waits => exact Or.inl (Or.inl rfl)
  | spins => exact Or.inl (Or.inr rfl)

/-- **A stage is performed**, and leaves what its arguments were taken from. -/
theorem Stage.exists_performs (stage : Stage σ) (context : Context) (given : Pending)
    (scope : Scope) (world : World σ) : ∃ ending after,
      stage.Performs context scope given world ending after ∧
      stage.run context given scope world
        = (ending.map fun response => (response, (stage.plan.extract context given).2), after) := by
  rcases found : stage.plan.extract context given with ⟨fault | arguments, left⟩
  · refine ⟨_, _, .unbound (congrArg Prod.fst found), ?_⟩
    simp only [run, found]
    rfl
  · have bound : (stage.plan.extract context given).1 = .ok arguments := congrArg Prod.fst found
    have runs : stage.run context given scope world
        = Activity.andThen (Activity.attempt (stage.handler arguments))
            (fun outcome => return (answer outcome, left)) scope world := by
      simp only [run, found]
      rfl
    rw [runs]
    unfold Activity.andThen Activity.attempt
    rcases ran : stage.handler arguments scope world with ⟨ending, after⟩
    cases ending with
    | done outcome =>
      cases outcome with
      | ok response => exact ⟨_, _, .answers bound ran, rfl⟩
      | error fault => exact ⟨_, _, .fails bound ran, rfl⟩
    | panicked panic => exact ⟨_, _, .breaksOff bound ran, rfl⟩
    | expired => exact ⟨_, _, .waits bound ran, rfl⟩
    | endless => exact ⟨_, _, .spins bound ran, rfl⟩

/-! ### Stages one after the other -/

/-- What a stage is for. -/
inductive Role where
  | prologue | main | epilogue
  deriving DecidableEq, Repr

/-- A stage that was performed: what for, what it was given, how it ended, and the worlds before and
after. -/
structure Performance (σ : Type) where
  role : Role
  stage : Stage σ
  given : Pending
  before : World σ
  /-- How the stage ended, and the whole if nothing follows. -/
  ending : Ending Message
  after : World σ

namespace Performance

/-- What a stage answered, if it did. -/
def response (one : Performance σ) : Option Message := one.ending.value?

/-- What is left of what the arguments were taken from. -/
def left (one : Performance σ) (context : Context) : Pending :=
  (one.stage.plan.extract context one.given).2

/-- A stage that answered ended with its answer. -/
theorem ending_of_response {one : Performance σ} {response : Message}
    (answered : one.response = some response) : one.ending = .done response := by
  unfold Performance.response Ending.value? at answered
  split at answered
  · rename_i value ended
    cases answered
    exact ended
  · cases answered

/-- The note that is made of a stage when it begins. -/
def note (feature : Feature σ) (context : Context) (one : Performance σ) : StageRun σ :=
  { feature, stage := one.stage, context, pending := one.given }

/-- **A stage lets others follow**: it answers, and with a success if it is a prologue. -/
def GoesOn (one : Performance σ) : Prop :=
  ∃ response, one.response = some response ∧
    (one.role = .prologue → response.Succeeds)

/-- The part that is performed. -/
def part (one : Performance σ) : Role × Stage σ := (one.role, one.stage)

/-- A stage comes after a response, in a world: it begins there, and if it is an epilogue, it is
given the response. -/
def Follows (one : Performance σ) (previous : Option Message) (world : World σ) : Prop :=
  one.before = world ∧ one.given.previous = if one.role = .epilogue then previous else none

end Performance

/-- The stages of a feature in their order. -/
def Feature.roles (feature : Feature σ) : List (Role × Stage σ) :=
  feature.prologues.map (Role.prologue, ·) ++
    (.main, feature.main) :: feature.epilogues.map (Role.epilogue, ·)

/-- **Stages in a row**, from a response, a request and a world on: each is given the request as the
one before has left it, in the world that it has left, and an epilogue its response too. The row
ends with the last stage, or with the first that does not let others follow. -/
inductive Row (context : Context) (scope : Scope) : List (Role × Stage σ) → Option Message →
    Message → World σ → List (Performance σ) → Ending Message → World σ → Prop where
  | finished (response request : Message) (world : World σ) :
      Row context scope [] (some response) request world [] (.done response) world
  | goesOn {one : Performance σ} {rest : List (Role × Stage σ)} {previous : Option Message}
      {request : Message} {world after : World σ} {others : List (Performance σ)}
      {ending : Ending Message}
      (performs : one.stage.Performs context scope one.given one.before one.ending one.after)
      (given : one.given
        = { request, previous := if one.role = .epilogue then previous else none })
      (before : one.before = world) (goes : one.GoesOn)
      (later : Row context scope rest one.response (one.left context).request one.after others
        ending after) :
      Row context scope ((one.role, one.stage) :: rest) previous request world (one :: others)
        ending after
  | ends {one : Performance σ} (rest : List (Role × Stage σ)) {previous : Option Message}
      {request : Message} {world : World σ}
      (performs : one.stage.Performs context scope one.given one.before one.ending one.after)
      (given : one.given
        = { request, previous := if one.role = .epilogue then previous else none })
      (before : one.before = world) (stays : ¬one.GoesOn) :
      Row context scope ((one.role, one.stage) :: rest) previous request world [one] one.ending
        one.after

namespace Feature

/-- An activity performs stages in a row and notes them. -/
def Plays (feature : Feature σ) (context : Context) (scope : Scope)
    (roles : List (Role × Stage σ)) (previous : Option Message) (request : Message)
    (world : World σ) (act : Logged (StageRun σ) σ Message) : Prop :=
  ∃ performances ending after, Row context scope roles previous request world performances ending
      after ∧
    act scope world = ((ending, after), performances.map (Performance.note feature context))

variable {feature : Feature σ} {context : Context} {scope : Scope}

/-- **One stage, and what follows it.** -/
theorem plays_stage (role : Role) (stage : Stage σ) {rest : List (Role × Stage σ)}
    {previous : Option Message} {request : Message} {world : World σ}
    {next : Message × Pending → Logged (StageRun σ) σ Message}
    (onward : ∀ response left after, (role = .prologue → response.Succeeds) →
      feature.Plays context scope rest (some response) left.request after (next (response, left)))
    (halts : ∀ response left, role = .prologue → ¬response.Succeeds →
      next (response, left) = return response) :
    feature.Plays context scope ((role, stage) :: rest) previous request world
      (feature.loggedStage stage context
        { request, previous := if role = .epilogue then previous else none } >>= next) := by
  let given : Pending := { request, previous := if role = .epilogue then previous else none }
  obtain ⟨ended, after, performs, ran⟩ := stage.exists_performs context given scope world
  let one : Performance σ := { role, stage, given, before := world, ending := ended, after }
  have noted : feature.loggedStage stage context given scope world
      = (stage.run context given scope world, [one.note feature context]) := rfl
  have whole : (feature.loggedStage stage context given >>= next) scope world
      = Logged.andThen (fun _ _ => ((ended.map fun response => (response, one.left context), after),
          [one.note feature context])) next scope world := by
    show Logged.andThen (feature.loggedStage stage context given) next scope world = _
    unfold Logged.andThen
    rw [noted, ran]
    rfl
  rcases performs.answers_or_not with (rfl | rfl) | ⟨response, rfl⟩
  · have stays : ¬one.GoesOn := fun ⟨_, answered, _⟩ => nomatch answered
    exact ⟨[one], .expired, after, .ends rest performs rfl rfl stays, whole⟩
  · have stays : ¬one.GoesOn := fun ⟨_, answered, _⟩ => nomatch answered
    exact ⟨[one], .endless, after, .ends rest performs rfl rfl stays, whole⟩
  · by_cases fine : role = .prologue → response.Succeeds
    · obtain ⟨others, ending, last, row, runs⟩ := onward response (one.left context) after fine
      have goes : one.GoesOn := ⟨response, rfl, fine⟩
      have longer : Row context scope ((one.role, one.stage) :: rest) previous request world
          (one :: others) ending last := .goesOn performs rfl rfl goes row
      refine ⟨one :: others, ending, last, longer, whole.trans ?_⟩
      simp only [Logged.andThen, Ending.map]
      rw [runs]
      rfl
    · have stays : ¬one.GoesOn := by
        rintro ⟨same, answered, success⟩
        cases answered
        exact fine success
      obtain ⟨isPrologue, unsuccessful⟩ := Classical.not_imp.mp fine
      refine ⟨[one], .done response, after, .ends rest performs rfl rfl stays, whole.trans ?_⟩
      simp only [Logged.andThen, Ending.map]
      rw [halts _ _ isPrologue unsuccessful]
      rfl

theorem plays_epilogues (stages : List (Stage σ)) : ∀ (response request : Message)
    (world : World σ), feature.Plays context scope (stages.map (Role.epilogue, ·)) (some response)
      request world (feature.loggedEpilogues context stages request response) := by
  induction stages with
  | nil => exact fun response request world => ⟨[], _, _, .finished response request world, rfl⟩
  | cons stage rest ih =>
    intro response request world
    refine plays_stage .epilogue stage (fun answer left after _ => ?_) nofun
    exact ih answer left.request after

/-- Prologues, and what follows them if they succeed. -/
theorem plays_prologues {roles : List (Role × Stage σ)}
    {next : Except Message Message → Logged (StageRun σ) σ Message}
    (onward : ∀ previous request world,
      feature.Plays context scope roles previous request world (next (.ok request)))
    (halts : ∀ response, next (.error response) = return response) (stages : List (Stage σ)) :
    ∀ (previous : Option Message) (request : Message) (world : World σ),
      feature.Plays context scope (stages.map (Role.prologue, ·) ++ roles) previous request world
        (feature.loggedPrologues context stages request >>= next) := by
  induction stages with
  | nil => exact onward
  | cons stage rest ih =>
    intro previous request world
    unfold loggedPrologues
    rw [Logged.bind_assoc]
    refine plays_stage .prologue stage ?_ ?_
    · intro response left after success
      simp only [response.isSuccess_iff, success rfl, if_true]
      exact ih (some response) left.request after
    · intro response left _ unsuccessful
      simp only [response.isSuccess_iff, unsuccessful, if_false]
      exact halts response

/-- **The stages of a feature are performed in a row**, and the notes are made of these. -/
theorem loggedExecute_row (feature : Feature σ) (context : Context) (request : Message)
    (scope : Scope) (world : World σ) : ∃ performances ending after,
      Row context scope feature.roles none request (world.hit feature.counter) performances ending
        after ∧
      feature.loggedExecute context request scope world
        = ((ending, after), performances.map (Performance.note feature context)) := by
  have afterwards : ∀ previous request world, feature.Plays context scope
      ((.main, feature.main) :: feature.epilogues.map (Role.epilogue, ·)) previous request world
      (feature.loggedStage feature.main context { request, previous := none } >>= fun ran =>
        feature.loggedEpilogues context feature.epilogues ran.2.request ran.1) := by
    intro previous request world
    refine plays_stage .main feature.main (fun response left after _ => ?_) nofun
    exact plays_epilogues feature.epilogues response left.request after
  exact plays_prologues afterwards (fun _ => rfl) feature.prologues none request
    (world.hit feature.counter)

end Feature

/-! ### What a row is like -/

namespace Row

variable {context : Context} {scope : Scope} {roles : List (Role × Stage σ)}
  {previous : Option Message} {request : Message} {world after : World σ}
  {performances : List (Performance σ)} {ending : Ending Message}

/-- The stages of a row come in their order. -/
theorem order (row : Row context scope roles previous request world performances ending after) :
    performances.map Performance.part <+: roles := by
  induction row with
  | finished response request world => exact List.nil_prefix
  | goesOn performs given before goes later ih => exact List.cons_prefix_cons.mpr ⟨rfl, ih⟩
  | ends rest performs given before stays => exact List.cons_prefix_cons.mpr ⟨rfl, List.nil_prefix⟩

theorem performs (row : Row context scope roles previous request world performances ending after) :
    ∀ one ∈ performances,
      one.stage.Performs context scope one.given one.before one.ending one.after := by
  induction row with
  | finished response request world => exact List.forall_mem_nil _
  | goesOn performs given before goes later ih => exact List.forall_mem_cons.mpr ⟨performs, ih⟩
  | ends rest performs given before stays => exact List.forall_mem_singleton.mpr performs

/-- Where a row begins. -/
theorem begins (row : Row context scope roles previous request world performances ending after) :
    ∀ first ∈ performances.head?, first.Follows previous world := by
  intro first isFirst
  cases row with
  | finished => exact absurd isFirst (Option.not_mem_none _)
  | goesOn performs given before goes later =>
    cases Option.some.inj isFirst
    exact ⟨before, by rw [given]⟩
  | ends rest performs given before stays =>
    cases Option.some.inj isFirst
    exact ⟨before, by rw [given]⟩

/-- Each stage of a row follows the one before. -/
theorem links (row : Row context scope roles previous request world performances ending after) :
    performances.IsChain fun one next => next.Follows one.response one.after := by
  induction row with
  | finished response request world => exact .nil
  | goesOn performs given before goes later ih => exact List.isChain_cons.mpr ⟨later.begins, ih⟩
  | ends rest performs given before stays => exact .singleton _

/-- All stages of a row but the last let others follow. -/
theorem goOn (row : Row context scope roles previous request world performances ending after) :
    ∀ one ∈ performances.dropLast, one.GoesOn := by
  induction row with
  | finished response request world => exact List.forall_mem_nil _
  | ends rest performs given before stays => exact List.forall_mem_nil _
  | @goesOn one _ _ _ _ _ others _ performs given before goes later ih =>
    cases others with
    | nil => exact List.forall_mem_nil _
    | cons next rest => exact List.forall_mem_cons.mpr ⟨goes, ih⟩

/-- A row of no stages ends with the response that there is. A row of stages ends with one of them:
the last, or one that does not let others follow. -/
theorem ends_with (row : Row context scope roles previous request world performances ending after) :
    (roles = [] ∧ performances = [] ∧ after = world ∧
        ∃ response, previous = some response ∧ ending = .done response) ∨
      ∃ last, performances.getLast? = some last ∧ ending = last.ending ∧ after = last.after ∧
        (¬last.GoesOn ∨ performances.map Performance.part = roles) := by
  induction row with
  | finished response request world => exact Or.inl ⟨rfl, rfl, rfl, response, rfl, rfl⟩
  | ends rest performs given before stays => exact Or.inr ⟨_, rfl, rfl, rfl, Or.inl stays⟩
  | @goesOn one rest _ _ _ _ others _ performs given before goes later ih =>
    right
    obtain ⟨rfl, rfl, sameWorld, response, answered, isDone⟩ | ⟨last, isLast, ended, left, complete⟩
      := ih
    · refine ⟨one, rfl, ?_, sameWorld, Or.inr rfl⟩
      rw [isDone, Performance.ending_of_response answered]
    · refine ⟨last, ?_, ended, left, complete.imp_right (congrArg (one.part :: ·))⟩
      rw [List.getLast?_cons, isLast, Option.getD_some]

end Row

/-! ### The theorem -/

/-- **How a feature is performed**: which of its stages are, what they are given, and what comes of
the whole. -/
structure Feature.Performed (feature : Feature σ) (context : Context) (request : Message)
    (scope : Scope) (world : World σ) (performances : List (Performance σ))
    (ending : Ending Message) (after : World σ) : Prop where
  /-- The stages come in their order, and none of them twice. -/
  order : performances.map Performance.part <+: feature.roles
  /-- Their beginnings are what is noted. -/
  notes : (feature.loggedExecute context request).events scope world
    = performances.map (Performance.note feature context)
  performs : ∀ one ∈ performances,
    one.stage.Performs context scope one.given one.before one.ending one.after
  /-- All of them get the same request. -/
  requests : ∀ one ∈ performances, request.Persists one.given.request
  /-- The first begins in the world with one more hit, and has no response before it. -/
  begins : ∀ first ∈ performances.head?, first.Follows none (world.hit feature.counter)
  /-- Each begins in the world that the one before has left, and an epilogue gets its response. -/
  links : performances.IsChain fun one next => next.Follows one.response one.after
  /-- Of the bindings for a response the first gets what the stage is given. -/
  responses : ∀ one ∈ performances, ∀ arguments,
    (one.stage.plan.extract context one.given).1 = .ok arguments →
      Plan.responsesOf arguments.values
        = Plan.handedOut one.given.previous one.stage.plan.bindings
  /-- All but the last have answered, and with a success if they are prologues. -/
  goOn : ∀ one ∈ performances.dropLast, one.GoesOn
  /-- The last one ends the whole: it still waits or goes on for ever, or it is a prologue that does
  not succeed and only prologues have come before it, or there are no more stages. -/
  ends : ∃ last, performances.getLast? = some last ∧ after = last.after ∧ ending = last.ending ∧
    ((last.response = none ∧ (ending = .expired ∨ ending = .endless)) ∨
      ∃ response, last.response = some response ∧ ending = .done response ∧
        ((¬response.Succeeds ∧ ∀ one ∈ performances, one.role = .prologue) ∨
          performances.map Performance.part = feature.roles))

namespace Feature

/-- Only prologues come before a prologue. -/
theorem pairwise_roles (feature : Feature σ) :
    feature.roles.Pairwise fun one later => later.1 = .prologue → one.1 = .prologue := by
  have others : ∀ other ∈ (Role.main, feature.main) :: feature.epilogues.map (Role.epilogue, ·),
      other.1 ≠ .prologue := by
    refine List.forall_mem_cons.mpr ⟨nofun, List.forall_mem_map.mpr fun stage _ => nofun⟩
  refine List.pairwise_append.mpr ⟨?_, ?_, ?_⟩
  · exact List.pairwise_map.mpr (List.pairwise_of_forall fun _ _ => fun _ => rfl)
  · exact List.pairwise_of_forall_mem_list fun _ _ later member isPrologue =>
      absurd isPrologue (others later member)
  · exact fun _ _ later member isPrologue => absurd isPrologue (others later member)

/-- If the last stage that is performed is a prologue, then all of them are. -/
theorem prologue_of_order {feature : Feature σ} {performances : List (Performance σ)}
    (order : performances.map Performance.part <+: feature.roles) {last : Performance σ}
    (isLast : performances.getLast? = some last) (isPrologue : last.role = .prologue) :
    ∀ one ∈ performances, one.role = .prologue := by
  obtain ⟨earlier, rfl⟩ := List.getLast?_eq_some_iff.mp isLast
  have sorted := feature.pairwise_roles.sublist order.sublist
  rw [List.pairwise_map, List.pairwise_append] at sorted
  intro one member
  rcases List.mem_append.mp member with early | late
  · exact sorted.2.2 one early last (List.mem_singleton.mpr rfl) isPrologue
  · rw [List.mem_singleton.mp late]
    exact isPrologue

/-- **How a feature ends**: its last stage still waits or goes on for ever, or it is a prologue that
does not succeed, or there are no more stages. -/
theorem ends_of_row {feature : Feature σ} {context : Context} {scope : Scope}
    {previous : Option Message} {request : Message} {world after : World σ}
    {performances : List (Performance σ)} {ending : Ending Message}
    (row : Row context scope feature.roles previous request world performances ending after) :
    ∃ last, performances.getLast? = some last ∧ after = last.after ∧ ending = last.ending ∧
      ((last.response = none ∧ (ending = .expired ∨ ending = .endless)) ∨
        ∃ response, last.response = some response ∧ ending = .done response ∧
          ((¬response.Succeeds ∧ ∀ one ∈ performances, one.role = .prologue) ∨
            performances.map Performance.part = feature.roles)) := by
  obtain ⟨noRoles, _⟩ | ⟨last, isLast, ended, left, complete⟩ := row.ends_with
  · exact absurd noRoles (List.append_ne_nil_of_right_ne_nil _ (List.cons_ne_nil _ _))
  · refine ⟨last, isLast, left, ended, ?_⟩
    rcases (row.performs last (List.mem_of_getLast? isLast)).answers_or_not with
      unanswered | ⟨response, answered⟩
    · refine Or.inl ⟨?_, ended ▸ unanswered⟩
      rcases unanswered with waits | spins
      · exact congrArg Ending.value? waits
      · exact congrArg Ending.value? spins
    · have answers : last.response = some response := congrArg Ending.value? answered
      refine Or.inr ⟨response, answers, ended.trans answered, complete.imp_left fun stays => ?_⟩
      have refused : ¬(last.role = .prologue → response.Succeeds) :=
        fun fine => stays ⟨response, answers, fine⟩
      obtain ⟨isPrologue, unsuccessful⟩ := Classical.not_imp.mp refused
      exact ⟨unsuccessful, prologue_of_order row.order isLast isPrologue⟩

/-- **A feature is performed stage by stage**: its prologues up to the first that does not succeed,
which gives the answer; or all of them, the main stage and every epilogue, the last of which gives
the answer. A fault becomes an answer with a code of its own, and nothing breaks off. -/
theorem execute_performed (feature : Feature σ) (context : Context) {request : Message}
    (inMemory : request.isCloneable = true) (scope : Scope) (world : World σ) :
    (∃ performances ending after, feature.execute context request scope world = (ending, after) ∧
      feature.Performed context request scope world performances ending after) ∧
    ∀ fault : FeatureFault, fault.response.status.code = match fault with
      | .badArgument _ _ => 400
      | _ => 500 := by
  refine ⟨?_, FeatureFault.code_response⟩
  obtain ⟨performances, ending, after, row, runs⟩ :=
    feature.loggedExecute_row context request scope world
  have noted : (feature.loggedExecute context request).events scope world
      = performances.map (Performance.note feature context) := congrArg Prod.snd runs
  have requests : ∀ one ∈ performances, one.given.request.fresh = request.fresh := by
    intro one member
    have isNoted : one.note feature context
        ∈ (feature.loggedExecute context request).events scope world := by
      rw [noted]
      exact List.mem_map_of_mem member
    exact (of_mem_events_loggedExecute inMemory isNoted).2.2
  refine ⟨performances, ending, after, ?_, ?_⟩
  · rw [← plain_loggedExecute]
    exact congrArg Prod.fst runs
  · refine
      { order := row.order
        notes := noted
        performs := row.performs
        requests := fun one member => Message.persists_of_fresh inMemory (requests one member)
        begins := row.begins
        links := row.links
        responses := ?_
        goOn := row.goOn
        ends := ends_of_row row }
    intro one member arguments found
    have given := (Message.isCloneable_congr (requests one member)).trans inMemory
    exact one.stage.plan.responses_of_extract context given found

/-! ### A kitchen -/

/-- A feature of which the main stage breaks off, and an epilogue sets it right. -/
def kitchen : Feature Unit :=
  { service := "kitchen", verb := none, access := .anyone, description := none
    signature := { written := "dish", places := [.constant "dish"], extent := .atMost 0 }
    counter := { place := "kitchen", number := 0 }
    prologues := [{ name := "wash", plan := ⟨[]⟩, handler := fun _ => return .ok .ok }]
    main :=
      { name := "cook", plan := ⟨[⟨"body", .body .text⟩]⟩
        handler := fun _ => Activity.breakOff { words := some "burnt" } }
    epilogues :=
      [{ name := "serve", plan := ⟨[⟨"dish", .response⟩]⟩
         handler := fun arguments => return .ok (.okText
          (Text.decimal (arguments.takeResponse.1.getD .ok).status.code)) }] }

/-- All stages of the kitchen are performed. What is served succeeds, and tells the code of what the
main stage has answered. -/
theorem kitchen_performed : Message.ok.isCloneable = true ∧
    ∃ performances response after,
      kitchen.execute default .ok .outermost (World.initial 0 ()) = (.done response, after) ∧
      kitchen.Performed default .ok .outermost (World.initial 0 ()) performances (.done response)
        after ∧
      response.Succeeds ∧ response.string = .ok "500" ∧
      performances.map Performance.part = kitchen.roles := by
  have inMemory : Message.ok.isCloneable = true := rfl
  obtain ⟨response, done, succeeds, tells⟩ : ∃ response,
      (kitchen.execute default .ok .outermost (World.initial 0 ())).1 = .done response ∧
        response.Succeeds ∧ response.string = .ok "500" :=
    ⟨_, rfl, by decide +kernel⟩
  obtain ⟨⟨performances, ending, after, ran, performed⟩, _⟩ :=
    kitchen.execute_performed default inMemory .outermost (World.initial 0 ())
  have ended : ending = .done response := by
    rw [ran] at done
    exact done
  subst ended
  refine ⟨inMemory, performances, response, after, ran, performed, succeeds, tells, ?_⟩
  obtain ⟨last, _, _, _, ⟨_, undone⟩ | ⟨other, _, same, ⟨refused, _⟩ | complete⟩⟩ := performed.ends
  · rcases undone with expired | endless
    · cases expired
    · cases endless
  · cases same
    exact absurd succeeds refused
  · exact complete

end Feature

end Switchboard
