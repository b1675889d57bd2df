import Switchboard.Proofs.Exchange.Visits
/-!
The trace of a call: its steps, one by one.

The trace is read off the notes of the call: the steps of its hops up to the answers of endpoints,
and those after the last answer.

* `Exchange.hopSteps` are the steps of a visit up to the answer of the endpoint, and
  `Exchange.lastSteps` are those of a visit that no redirect follows, with the handlers after the
  endpoint.
* `Exchange.trace_eq`: the trace of a call are the steps of its visits, in order.
-/

namespace Switchboard

variable {σ : Type}

namespace Exchange

variable (exchange : Exchange σ)

/-- Makes one hop that no other one follows, and notes its steps. -/
def tracedLast (plug : Plug σ) (verb : Verb) (request : Message) (timeout : Span) :
    Logged (Step σ) σ Message := do
  tracedRest verb plug (← exchange.tracedHop plug verb request timeout)

/-- The trace of a call: its steps, in order. -/
def trace (plug : Plug σ) (verb : Verb) (request : Message) (timeout : Span) (scope : Scope)
    (world : World σ) : List (Step σ) :=
  ((exchange.tracedInvoke plug verb request timeout).events scope world).flatMap Note.steps

/-- The steps of a visit up to the answer of the endpoint. -/
def hopSteps (verb : Verb) (timeout : Span) (scope : Scope) (visit : Visit σ) : List (Step σ) :=
  (exchange.tracedHop visit.plug verb visit.request timeout).events scope visit.began

/-- The steps of a visit that no redirect follows. -/
def lastSteps (verb : Verb) (timeout : Span) (scope : Scope) (visit : Visit σ) : List (Step σ) :=
  (exchange.tracedLast visit.plug verb visit.request timeout).events scope visit.began

/-- The steps of visits, of which the last one is followed by no redirect. -/
def stepsOf (verb : Verb) (timeout : Span) (scope : Scope) : List (Visit σ) → List (Step σ)
  | [] => []
  | [last] => exchange.lastSteps verb timeout scope last
  | visit :: next :: rest =>
    exchange.hopSteps verb timeout scope visit ++ stepsOf verb timeout scope (next :: rest)

variable {exchange} {plug next : Plug σ} {verb : Verb} {request replay : Message}
  {timeout : Span} {scope : Scope} {world : World σ}

/-- How a hop ran up to the answer of the endpoint is told by its visit. -/
theorem plain_tracedHop_eq_visit :
    (exchange.tracedHop plug verb request timeout).plain scope world
      = ((exchange.visit plug verb request timeout scope world).ending,
          (exchange.visit plug verb request timeout scope world).ended) := by
  rw [plain_tracedHop]
  exact hop_eq_visit

/-- **A hop that no redirect follows** ends as its call does, with the steps up to the answer of the
endpoint and those after it. -/
theorem tracedLast_eq (exchange : Exchange σ) (plug : Plug σ) (verb : Verb) (request : Message)
    (timeout : Span) (scope : Scope) (world : World σ) :
    exchange.tracedLast plug verb request timeout scope world =
    let visit := exchange.visit plug verb request timeout scope world
    (conclude verb visit scope,
      exchange.hopSteps verb timeout scope visit ++ restSteps verb scope visit) := by
  refine (Logged.bind_apply _ _ scope world).trans ?_
  rw [plain_tracedHop_eq_visit]
  simp only [conclude, restSteps]
  cases (exchange.visit plug verb request timeout scope world).ending with
  | panicked panic => exact congrArg (Prod.mk _) (List.append_nil _).symm
  | expired => exact congrArg (Prod.mk _) (List.append_nil _).symm
  | endless => exact congrArg (Prod.mk _) (List.append_nil _).symm
  | done ending =>
    cases ending with
    | stopped response => rfl
    | answered served response =>
      exact congrArg (Prod.mk · _) (congrFun (congrFun
        (plain_tracedAfter verb plug.uri served plug.after 0 response) scope) _)

theorem plain_tracedLast (plug : Plug σ) (verb : Verb) (request : Message) (timeout : Span)
    (scope : Scope) (world : World σ) :
    (exchange.tracedLast plug verb request timeout).plain scope world
      = conclude verb (exchange.visit plug verb request timeout scope world) scope :=
  congrArg Prod.fst (exchange.tracedLast_eq plug verb request timeout scope world)

/-- What is no request takes no step. -/
theorem trace_of_refusal {words : String} (refused : refusal? request = some words) :
    exchange.trace plug verb request timeout scope world = [] := by
  unfold trace Logged.events
  rw [tracedInvoke_of_refusal refused]
  rfl

theorem trace_of_last (accepted : refusal? request = none)
    (last : (exchange.visit plug verb request timeout scope world).next? = none) :
    exchange.trace plug verb request timeout scope world
      = exchange.lastSteps verb timeout scope
          (exchange.visit plug verb request timeout scope world) := by
  unfold trace Logged.events
  rw [tracedInvoke_of_last accepted last]
  refine Eq.trans ?_ (congrArg Prod.snd
    (exchange.tracedLast_eq plug verb request timeout scope world)).symm
  exact congrArg (List.append _) (Note.flatMap_steps_after _)

theorem trace_of_next (accepted : refusal? request = none)
    (follows : (exchange.visit plug verb request timeout scope world).next? = some (next, replay)) :
    exchange.trace plug verb request timeout scope world
      = exchange.hopSteps verb timeout scope (exchange.visit plug verb request timeout scope world)
        ++ exchange.trace next verb replay timeout scope
          (exchange.visit plug verb request timeout scope world).ended := by
  unfold trace Logged.events
  rw [tracedInvoke_of_next accepted follows]
  rfl

/-- The steps of visits are those of all visits, up to the answers of endpoints, and those after the
last answer. -/
theorem stepsOf_append (earlier : List (Visit σ)) (last : Visit σ) :
    exchange.stepsOf verb timeout scope (earlier ++ [last])
      = earlier.flatMap (exchange.hopSteps verb timeout scope)
        ++ exchange.lastSteps verb timeout scope last := by
  induction earlier with
  | nil => rfl
  | cons visit rest ih =>
    rw [List.flatMap_cons, List.append_assoc, ← ih]
    cases rest <;> rfl

/-- **The trace of a call** are the steps of its visits. -/
theorem trace_eq : exchange.trace plug verb request timeout scope world
    = exchange.stepsOf verb timeout scope
        (exchange.visits plug verb request timeout scope world) := by
  refine visits_induction (motive := fun plug request world visits =>
    exchange.trace plug verb request timeout scope world
      = exchange.stepsOf verb timeout scope visits) ?_ ?_ ?_ plug request world
  · intro plug request world refused
    cases refusal : refusal? request with
    | some words => exact trace_of_refusal refusal
    | none => exact absurd refusal refused
  · intro plug request world accepted last
    exact trace_of_last accepted last
  · intro plug request world following replay accepted follows later
    obtain ⟨rest, more⟩ := exchange.exists_visits_cons following verb timeout scope
      (exchange.visit plug verb request timeout scope world).ended
      (accepted_of_next accepted follows)
    rw [trace_of_next accepted follows, later, more]
    rfl

end Exchange

end Switchboard
