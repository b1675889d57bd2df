import Switchboard.Proofs.Exchange.Trace
/-!
The course of a call: its steps go as the plug plans them, up to the first one that does not pass.

A step passes, or it fails with a code, or it answers in the place of the endpoint, or it is cut
off. The first step that does not pass is the last one, and what the call comes to is told by it
alone.

* `Step.verdict` is the table of verdicts, with a code for each way to fail.
* `Course` says how steps follow a plan and what they come to.
* `Logged.Follows.bind`: a sequence follows the plans of its parts, one after the other.
* `Exchange.tracedHop_follows` and `Exchange.tracedLast_follows`: hops follow the plans of their
  plugs.
-/

namespace Switchboard

variable {σ α β : Type}

/-! ### Plans -/

/-- The kind of a step. Handlers are told apart by their place. -/
inductive StepKind where
  | find
  | dress
  | before (index : Nat)
  | ask
  | after (index : Nat)
  deriving DecidableEq, Repr

/-- The kind of a step. -/
def Step.kind : Step σ → StepKind
  | .find _ _ => .find
  | .dress _ _ => .dress
  | .before index _ _ => .before index
  | .ask _ _ => .ask
  | .after index _ _ => .after index

namespace Plug

/-- The steps of a hop up to the answer of the endpoint. -/
def hopPlan (plug : Plug σ) : List StepKind :=
  .find :: .dress :: ((List.range' 0 plug.before.length).map .before ++ [.ask])

/-- The steps of a hop that no redirect follows. -/
def lastPlan (plug : Plug σ) : List StepKind :=
  plug.hopPlan ++ (List.range' 0 plug.after.length).map .after

end Plug

/-! ### Verdicts -/

/-- How a step bears on its call. -/
inductive Verdict where
  | passes
  /-- The call ends with a failure that has a code. -/
  | fails (code : Nat)
  /-- The call ends with a message. -/
  | answers (response : Message)
  /-- The deadline of the scope came, or the step goes on for ever. -/
  | cut

/-- **What a step means for its call.** -/
def Step.verdict : Step σ → Verdict
  | .find _ none => .fails 1
  | .find _ (some _) => .passes
  | .dress _ _ => .passes
  | .before _ _ (.done (.ok none)) => .fails 10
  | .before _ _ (.done (.error _)) => .fails 11
  | .before _ _ (.done (.ok (some request))) =>
    if request.status = .ok then .passes else .answers request
  | .ask _ (.done none) => .fails 12
  | .ask _ (.done (some (.error _))) => .fails 11
  | .ask _ (.done (some (.ok (.error fault)))) => .fails (if fault.isTimeout then 12 else 11)
  | .ask _ (.done (some (.ok (.ok _)))) => .passes
  | .after _ _ (.done (.ok none)) => .fails 20
  | .after _ _ (.done (.error _)) => .fails 21
  | .after _ _ (.done (.ok (some _))) => .passes
  | .before _ _ _ | .ask _ _ | .after _ _ _ => .cut

/-- Says whether a call with a response is what a verdict means. Failures are in memory. -/
def Verdict.Gives : Verdict → Message → Prop
  | .fails code, response => response.status.code = code ∧ response.isCloneable = true
  | .answers given, response => response = given
  | .passes, _ => False
  | .cut, _ => False

/-! ### Courses -/

/-- What the values of an activity mean for a call. -/
structure Exits (α : Type) where
  /-- The call goes on. -/
  goes : α → Prop
  /-- The call ends with a response. -/
  stops : Message → α → Prop

/-- Handlers before the endpoint end a call with an error, and so does the endpoint. -/
def Exits.answer : Exits (Except Message Message) where
  goes outcome := ∃ message, outcome = .ok message
  stops response outcome := outcome = .error response

/-- A hop that is stopped ends a call. -/
def Exits.hop : Exits HopEnd where
  goes ending := ∃ served response, ending = .answered served response
  stops response ending := ending = .stopped response

/-- The value of a call is its response. -/
def Exits.call : Exits Message where
  goes _ := True
  stops response value := value = response

/-- **How steps follow a plan**, and what they come to: the first one that does not pass is the last
one and decides what that is. -/
inductive Course (exits : Exits α) : List StepKind → List (Step σ) → Ending α → Prop where
  /-- The plan has come to its end. -/
  | through {value : α} (goes : exits.goes value) : Course exits [] [] (.done value)
  | passed {step : Step σ} {plan : List StepKind} {steps : List (Step σ)} {ending : Ending α}
      (passes : step.verdict = .passes) (rest : Course exits plan steps ending) :
      Course exits (step.kind :: plan) (step :: steps) ending
  | stopped {step : Step σ} {plan : List StepKind} {response : Message} {value : α}
      (gives : step.verdict.Gives response) (stops : exits.stops response value) :
      Course exits (step.kind :: plan) [step] (.done value)
  | cut {step : Step σ} {plan : List StepKind} {ending : Ending α} (cut : step.verdict = .cut)
      (undone : ∀ value, ending ≠ .done value) : Course exits (step.kind :: plan) [step] ending

namespace Course

variable {exits : Exits α} {exits' : Exits β} {plan plan' : List StepKind}
  {steps rest : List (Step σ)} {ending : Ending α} {ending' : Ending β}

/-- The steps of a course are steps of the plan, in order and from the first one on. -/
theorem kinds_isPrefix (course : Course exits plan steps ending) :
    steps.map Step.kind <+: plan := by
  induction course with
  | through => exact List.prefix_refl []
  | passed _ _ ih => exact List.cons_prefix_cons.mpr ⟨rfl, ih⟩
  | stopped => exact List.cons_prefix_cons.mpr ⟨rfl, List.nil_prefix⟩
  | cut => exact List.cons_prefix_cons.mpr ⟨rfl, List.nil_prefix⟩

/-- What does not stop the call has taken all steps of the plan, and passed them. -/
theorem passes_of_done {value : α} (course : Course exits plan steps (.done value))
    (goes : ∀ response, ¬ exits.stops response value) :
    steps.map Step.kind = plan ∧ ∀ step ∈ steps, step.verdict = .passes := by
  -- The induction is on the course, and its ending is one of the indices.
  generalize given : Ending.done value = ending at course
  induction course with
  | through => exact ⟨rfl, fun _ member => nomatch member⟩
  | passed passes _ ih =>
    obtain ⟨kinds, later⟩ := ih given
    exact ⟨congrArg (List.cons _) kinds, List.forall_mem_cons.mpr ⟨passes, later⟩⟩
  | stopped _ stops =>
    cases given
    exact absurd stops (goes _)
  | cut _ undone => exact absurd given.symm (undone value)

/-- If every step passes, all steps of the plan are taken. -/
theorem kinds_of_passes {value : α} (course : Course exits plan steps (.done value))
    (passes : ∀ step ∈ steps, step.verdict = .passes) : steps.map Step.kind = plan := by
  generalize given : Ending.done value = ending at course
  induction course with
  | through => rfl
  | passed _ _ ih =>
    exact congrArg (List.cons _) (ih (List.forall_mem_cons.mp passes).2 given)
  | stopped gives _ =>
    rw [passes _ (List.mem_singleton.mpr rfl)] at gives
    exact gives.elim
  | cut _ undone => exact absurd given.symm (undone value)

/-- **A step that does not pass** is the last one, and the value of the course is what it means. -/
theorem decides {value : α} (course : Course exits plan steps (.done value)) {step : Step σ}
    (member : step ∈ steps) (fails : step.verdict ≠ .passes) : steps.getLast? = some step ∧
      ∃ response, step.verdict.Gives response ∧ exits.stops response value := by
  generalize given : Ending.done value = ending at course
  induction course with
  | through => cases member
  | passed passes _ ih =>
    rcases List.mem_cons.mp member with rfl | later
    · exact absurd passes fails
    · obtain ⟨isLast, decided⟩ := ih later given
      rw [List.getLast?_cons, isLast]
      exact ⟨rfl, decided⟩
  | stopped gives stops =>
    cases given
    obtain rfl := List.mem_singleton.mp member
    exact ⟨rfl, _, gives, stops⟩
  | cut _ undone => exact absurd given.symm (undone value)

/-- Where a course goes on, another one may follow. -/
theorem append {value : α} (course : Course exits plan steps (.done value))
    (goes : exits.goes value → Course exits' plan' rest ending')
    (stops : ∀ response, exits.stops response value →
      rest = [] ∧ ∃ result, ending' = .done result ∧ exits'.stops response result) :
    Course exits' (plan ++ plan') (steps ++ rest) ending' := by
  generalize given : Ending.done value = ending at course
  induction course with
  | through goesOn =>
    cases given
    exact goes goesOn
  | passed passes _ ih => exact .passed passes (ih given)
  | stopped gives stopsHere =>
    cases given
    obtain ⟨rfl, result, rfl, stopped⟩ := stops _ stopsHere
    exact .stopped gives stopped
  | cut _ undone => exact absurd given.symm (undone value)

/-- Where a course does not come to a value, neither does what was to follow. -/
theorem broken (course : Course exits plan steps ending) (undone : ∀ value, ending ≠ .done value)
    (undone' : ∀ result, ending' ≠ .done result) : Course exits' (plan ++ plan') steps ending' := by
  induction course with
  | through => exact absurd rfl (undone _)
  | passed passes _ ih => exact .passed passes (ih undone)
  | stopped => exact absurd rfl (undone _)
  | cut isCut => exact .cut isCut undone'

end Course

/-! ### Following plans -/

/-- **Follows a plan**: whenever it runs, the steps that it tells follow the plan. -/
def Logged.Follows (exits : Exits α) (plan : List StepKind) (act : Logged (Step σ) σ α) : Prop :=
  ∀ scope world, Course exits plan (act.events scope world) (act.plain scope world).1

namespace Logged.Follows

variable {exits : Exits α} {exits' : Exits β} {plan plan' : List StepKind}

theorem pure {value : α} (goes : exits.goes value) :
    Follows exits [] (Pure.pure value : Logged (Step σ) σ α) :=
  fun _ _ => .through goes

theorem kind_mem {act : Logged (Step σ) σ α} (follows : act.Follows exits plan) {scope : Scope}
    {world : World σ} {step : Step σ} (member : step ∈ act.events scope world) : step.kind ∈ plan :=
  (follows scope world).kinds_isPrefix.subset (List.mem_map_of_mem member)

/-- **A sequence follows the plans of its parts**, if its second part does nothing where the call
has ended. -/
theorem bind {first : Logged (Step σ) σ α} {next : α → Logged (Step σ) σ β}
    (follows : first.Follows exits plan)
    (goes : ∀ value, exits.goes value → (next value).Follows exits' plan')
    (stops : ∀ value response, exits.stops response value →
      ∃ result, next value = Pure.pure result ∧ exits'.stops response result) :
    (first >>= next).Follows exits' (plan ++ plan') := by
  intro scope world
  unfold events plain
  rw [bind_apply]
  have course := follows scope world
  -- A first part that is not done leaves nothing for the second to do.
  cases ending : (plain first scope world).1 with
  | done value =>
    rw [ending] at course
    refine course.append (fun given => goes value given scope _) fun response given => ?_
    obtain ⟨result, ends, stopped⟩ := stops value response given
    simp only [ends]
    exact ⟨rfl, result, rfl, stopped⟩
  | panicked panic =>
    rw [ending] at course
    exact course.broken nofun nofun
  | expired =>
    rw [ending] at course
    exact course.broken nofun nofun
  | endless =>
    rw [ending] at course
    exact course.broken nofun nofun

/-- A step that always passes comes before the rest. -/
theorem note_bind {event : Scope → World σ → Step σ} {next : Unit → Logged (Step σ) σ α}
    {kind : StepKind} (kinds : ∀ scope world, (event scope world).kind = kind)
    (passes : ∀ scope world, (event scope world).verdict = .passes)
    (follows : (next ()).Follows exits plan) :
    (note event >>= next).Follows exits (kind :: plan) := by
  intro scope world
  rw [← kinds scope world]
  exact .passed (passes scope world) (follows scope world)

/-- **A step with what comes of it**: it passes and the rest follows, or it stops the call and there
is no rest, or it is cut off. -/
theorem watch_bind {event : Scope → World σ → Ending β → Step σ} {act : Activity σ β}
    {next : β → Logged (Step σ) σ α} {kind : StepKind}
    (kinds : ∀ scope world ending, (event scope world ending).kind = kind)
    (done : ∀ scope world value,
      ((event scope world (.done value)).verdict = .passes ∧ (next value).Follows exits plan) ∨
        ∃ response result, (event scope world (.done value)).verdict.Gives response ∧
          next value = Pure.pure result ∧ exits.stops response result)
    (panicked : ∀ scope world panic, (event scope world (.panicked panic)).verdict = .cut)
    (expired : ∀ scope world, (event scope world .expired).verdict = .cut)
    (endless : ∀ scope world, (event scope world .endless).verdict = .cut) :
    (watch event act >>= next).Follows exits (kind :: plan) := by
  intro scope world
  unfold events plain
  rw [bind_apply, plain_watch, events_watch]
  cases ending : (act scope world).1 with
  | done value =>
    rw [← kinds scope world (.done value)]
    rcases done scope world value with ⟨passes, follows⟩ | ⟨response, result, gives, ends, stops⟩
    · exact .passed passes (follows scope _)
    · simp only [ends]
      exact .stopped gives stops
  | panicked panic =>
    rw [← kinds scope world (.panicked panic)]
    exact .cut (panicked scope world panic) nofun
  | expired =>
    rw [← kinds scope world .expired]
    exact .cut (expired scope world) nofun
  | endless =>
    rw [← kinds scope world .endless]
    exact .cut (endless scope world) nofun

/-- What is always done, and is no step, makes no difference. -/
theorem of_bind {act : Activity σ β} {next : β → Logged (Step σ) σ α}
    (done : ∀ scope world, ∃ value, (act scope world).1 = .done value)
    (follows : ∀ value, (next value).Follows exits plan) :
    (of act >>= next).Follows exits plan := by
  intro scope world
  obtain ⟨value, done⟩ := done scope world
  unfold events plain
  rw [bind_apply, plain_of, done]
  exact follows value scope _

end Logged.Follows

/-! ### Hops -/

namespace Failure

/-- What explains a failure is in memory and has the status that it explains. -/
theorem gives_explain (status : Status) (reason : String) :
    (Verdict.fails status.code).Gives (Message.explain status reason) :=
  ⟨rfl, rfl⟩

theorem gives_unanswered (fault : CallFault) :
    (Verdict.fails (if fault.isTimeout then 12 else 11)).Gives (unanswered fault) := by
  unfold unanswered
  split <;> exact gives_explain _ _

end Failure

namespace Exchange

theorem tracedBefore_follows (verb : Verb) (uri served : Uri) (handlers : List (MessageHandler σ)) :
    ∀ index request, (tracedBefore verb uri served index handlers request).Follows Exits.answer
      ((List.range' index handlers.length).map .before) := by
  induction handlers with
  | nil => exact fun _ request => .pure ⟨request, rfl⟩
  | cons handler rest ih =>
    intro index request
    refine .watch_bind (fun _ _ _ => rfl) (fun _ _ outcome => ?_) (fun _ _ _ => rfl)
      (fun _ _ => rfl) fun _ _ => rfl
    match outcome with
    | .error panic => exact Or.inr ⟨_, _, Failure.gives_explain _ _, rfl, rfl⟩
    | .ok none => exact Or.inr ⟨_, _, Failure.gives_explain _ _, rfl, rfl⟩
    | .ok (some request) =>
      by_cases accepted : request.status = .ok
      · refine Or.inl ⟨if_pos accepted, ?_⟩
        simp only [if_pos accepted]
        exact ih (index + 1) request
      · simp only [if_neg accepted, Step.verdict]
        exact Or.inr ⟨request, _, rfl, rfl, rfl⟩

theorem tracedAfter_follows (verb : Verb) (uri served : Uri) (handlers : List (MessageHandler σ)) :
    ∀ index response, (tracedAfter verb uri served index handlers response).Follows Exits.call
      ((List.range' index handlers.length).map .after) := by
  induction handlers with
  | nil => exact fun _ _ => .pure trivial
  | cons handler rest ih =>
    intro index response
    refine .watch_bind (fun _ _ _ => rfl) (fun _ _ outcome => ?_) (fun _ _ _ => rfl)
      (fun _ _ => rfl) fun _ _ => rfl
    match outcome with
    | .error panic => exact Or.inr ⟨_, _, Failure.gives_explain _ _, rfl, rfl⟩
    | .ok none => exact Or.inr ⟨_, _, Failure.gives_explain _ _, rfl, rfl⟩
    | .ok (some response) => exact Or.inl ⟨rfl, ih (index + 1) response⟩

variable (exchange : Exchange σ)

theorem tracedAnswer_follows (found : Match σ) (plug : Plug σ) (verb : Verb) (request : Message)
    (limit : Span) :
    (exchange.tracedAnswer found plug verb request limit).Follows Exits.answer [.ask] := by
  refine .watch_bind (fun _ _ _ => rfl) (fun _ _ outcome => ?_) (fun _ _ _ => rfl)
    (fun _ _ => rfl) fun _ _ => rfl
  match outcome with
  | none => exact Or.inr ⟨_, _, Failure.gives_explain _ _, rfl, rfl⟩
  | some (.error panic) => exact Or.inr ⟨_, _, Failure.gives_explain _ _, rfl, rfl⟩
  | some (.ok (.error fault)) => exact Or.inr ⟨_, _, Failure.gives_unanswered fault, rfl, rfl⟩
  | some (.ok (.ok response)) => exact Or.inl ⟨rfl, .pure ⟨response, rfl⟩⟩

/-- **A hop follows the plan of its plug.** -/
theorem tracedHop_follows (plug : Plug σ) (verb : Verb) (request : Message) (timeout : Span) :
    (exchange.tracedHop plug verb request timeout).Follows Exits.hop plug.hopPlan := by
  unfold tracedHop Plug.hopPlan
  cases exchange.registry.find plug.uri with
  | none =>
    have unserved :
        (Step.find plug.uri none : Step σ).verdict.Gives (Failure.noEndpoint plug.uri) :=
      Failure.gives_explain .noEndpoint _
    exact fun _ _ => .stopped unserved rfl
  | some found =>
    refine .note_bind (fun _ _ => rfl) (fun _ _ => rfl) ?_
    refine .of_bind (exchange.jarOf_done plug) fun jar => ?_
    refine .of_bind (fun _ _ => ⟨_, rfl⟩) fun cookies => ?_
    refine .note_bind (fun _ _ => rfl) (fun _ _ => rfl) ?_
    refine .bind (tracedBefore_follows _ _ _ _ _ _) (fun outcome goes => ?_)
      fun outcome response stops => ?_
    · obtain ⟨request, rfl⟩ := goes
      show Logged.Follows Exits.hop ([.ask] ++ []) _
      refine .bind (exchange.tracedAnswer_follows _ _ _ _ _) (fun outcome goes => ?_)
        fun outcome response stops => ?_
      · obtain ⟨response, rfl⟩ := goes
        exact .of_bind (fun _ _ => ⟨(), keepCookies_done _ _ _ _ _ _⟩) fun _ =>
          .pure ⟨found.uri, response, rfl⟩
      · cases stops
        exact ⟨_, rfl, rfl⟩
    · cases stops
      exact ⟨_, rfl, rfl⟩

/-- **A hop that no redirect follows** follows the plan of its plug to its end. -/
theorem tracedLast_follows (plug : Plug σ) (verb : Verb) (request : Message) (timeout : Span) :
    (exchange.tracedLast plug verb request timeout).Follows Exits.call plug.lastPlan := by
  refine .bind (exchange.tracedHop_follows plug verb request timeout) (fun ending goes => ?_)
    fun ending response stops => ?_
  · obtain ⟨served, response, rfl⟩ := goes
    exact tracedAfter_follows _ _ _ _ _ _
  · cases stops
    exact ⟨response, rfl, rfl⟩

end Exchange

end Switchboard
