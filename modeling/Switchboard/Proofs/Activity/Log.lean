import Switchboard.Activity
/-!
Activities with a log.

A logged activity is an activity that tells, event by event, what it does on its way. The log is
kept even if the activity breaks off or runs out of time, and nothing that the activity does depends
on it: `plain` forgets the log and gives back an activity.

To say what happens within some activity, it is written once more with notes at the places that
matter, and `plain` of that is shown to be the activity itself. `plain` respects sequences
(`plain_bind`), so this is one rewrite per line.

* `Logged.events` is the log of a run.
* `Logged.mem_events_bind` says where an event of a sequence comes from.
* `Logged.retell_bind`: a log that is told in other words is so part by part.
-/

namespace Switchboard

/-- An activity with a log of events of type `ε`. -/
def Logged (ε σ α : Type) : Type := Scope → World σ → (Ending α × World σ) × List ε

namespace Logged

variable {ε δ σ α β γ : Type}

/-! ### Making logged activities -/

/-- An activity that tells nothing. -/
def of (act : Activity σ α) : Logged ε σ α := fun scope world => (act scope world, [])

/-- Tells an event, which may depend on where and when it happens, and does nothing else. -/
def note (event : Scope → World σ → ε) : Logged ε σ Unit := fun scope world =>
  ((.done (), world), [event scope world])

/-- Goes on with the value of a logged activity, if there is one. -/
def andThen (first : Logged ε σ α) (next : α → Logged ε σ β) : Logged ε σ β := fun scope world =>
  match first scope world with
  | ((.done value, world), told) =>
    ((next value scope world).1, told ++ (next value scope world).2)
  | ((.panicked panic, world), told) => ((.panicked panic, world), told)
  | ((.expired, world), told) => ((.expired, world), told)
  | ((.endless, world), told) => ((.endless, world), told)

instance : Monad (Logged ε σ) where
  pure value := of (pure value)
  bind := andThen

/-- Tells of an activity how it ended, whichever way that was. -/
def watch (event : Scope → World σ → Ending α → ε) (act : Activity σ α) : Logged ε σ α :=
  fun scope world => (act scope world, [event scope world (act scope world).1])

/-- Tells of an activity what `f` makes of its value, if it is done. -/
def report (f : α → Option δ) (act : Activity σ α) : Logged δ σ α := fun scope world =>
  (act scope world, match (act scope world).1 with
    | .done value => (f value).toList
    | _ => [])

/-- Tells a single event in the place of those that an activity tells, made of where it began and
of how it ran. -/
def gather (event : World σ → (Ending α × World σ) × List ε → δ) (act : Logged ε σ α) :
    Logged δ σ α := fun scope world =>
  ((act scope world).1, [event world (act scope world)])

/-- Tells in the place of each event what `f` makes of it, and nothing of those it makes nothing
of. -/
def retell (f : ε → Option δ) (act : Logged ε σ α) : Logged δ σ α := fun scope world =>
  ((act scope world).1, (act scope world).2.filterMap f)

/-- Tells in the place of each event another one that is made of it. -/
def rename (f : ε → δ) (act : Logged ε σ α) : Logged δ σ α := fun scope world =>
  ((act scope world).1, (act scope world).2.map f)

/-! ### Forgetting the log -/

/-- The activity without its log. -/
def plain (act : Logged ε σ α) : Activity σ α := fun scope world => (act scope world).1

/-- The log of a run. -/
def events (act : Logged ε σ α) (scope : Scope) (world : World σ) : List ε := (act scope world).2

@[simp] theorem plain_of (act : Activity σ α) : plain (of act : Logged ε σ α) = act := rfl

@[simp] theorem plain_watch (event : Scope → World σ → Ending α → ε) (act : Activity σ α) :
    plain (watch event act) = act := rfl

@[simp] theorem plain_note_bind (event : Scope → World σ → ε) (next : Unit → Logged ε σ β) :
    plain (note event >>= next) = plain (next ()) := rfl

@[simp] theorem plain_gather (event : World σ → (Ending α × World σ) × List ε → δ)
    (act : Logged ε σ α) : plain (gather event act) = plain act := rfl

/-- The log of a sequence has no part in what the sequence does. -/
@[simp] theorem plain_bind (first : Logged ε σ α) (next : α → Logged ε σ β) :
    plain (first >>= next) = plain first >>= fun value => plain (next value) := by
  funext scope world
  show (andThen first next scope world).1
    = Activity.andThen (plain first) (fun value => plain (next value)) scope world
  simp only [andThen, Activity.andThen, plain]
  rcases first scope world with ⟨⟨ending, after⟩, told⟩
  cases ending <;> rfl

/-! ### Events -/

@[simp] theorem events_note_bind (event : Scope → World σ → ε) (next : Unit → Logged ε σ β)
    (scope : Scope) (world : World σ) :
    events (note event >>= next) scope world
      = event scope world :: events (next ()) scope world := rfl

@[simp] theorem events_watch (event : Scope → World σ → Ending α → ε) (act : Activity σ α)
    (scope : Scope) (world : World σ) :
    events (watch event act) scope world = [event scope world (act scope world).1] := rfl

@[simp] theorem events_gather (event : World σ → (Ending α × World σ) × List ε → δ)
    (act : Logged ε σ α) (scope : Scope) (world : World σ) :
    events (gather event act) scope world = [event world (act scope world)] := rfl

/-- A sequence goes on after a part that is done, and ends with one that is not. -/
theorem bind_apply (first : Logged ε σ α) (next : α → Logged ε σ β) (scope : Scope)
    (world : World σ) : (first >>= next) scope world =
      match (plain first scope world).1 with
      | .done value => (plain (next value) scope (plain first scope world).2,
          events first scope world ++ events (next value) scope (plain first scope world).2)
      | .panicked panic =>
        ((.panicked panic, (plain first scope world).2), events first scope world)
      | .expired => ((.expired, (plain first scope world).2), events first scope world)
      | .endless => ((.endless, (plain first scope world).2), events first scope world) := by
  show andThen first next scope world = _
  simp only [andThen, events, plain]
  rcases first scope world with ⟨⟨ending, after⟩, told⟩
  cases ending <;> rfl

/-- A sequence of sequences is one sequence. -/
theorem bind_assoc (first : Logged ε σ α) (next : α → Logged ε σ β) (last : β → Logged ε σ γ) :
    first >>= next >>= last = first >>= fun value => next value >>= last := by
  funext scope world
  show andThen (andThen first next) last scope world
    = andThen first (fun value => andThen (next value) last) scope world
  simp only [andThen]
  rcases first scope world with ⟨⟨ending, after⟩, told⟩
  cases ending with
  | done value =>
    simp only
    rcases next value scope after with ⟨⟨ending, later⟩, toldNext⟩
    cases ending with
    | done other => exact congrArg (Prod.mk _) (List.append_assoc _ _ _)
    | panicked panic => rfl
    | expired => rfl
    | endless => rfl
  | panicked panic => rfl
  | expired => rfl
  | endless => rfl

theorem of_bind (first : Activity σ α) (next : α → Activity σ β) :
    (of (first >>= next) : Logged ε σ β) = of first >>= fun value => of (next value) := by
  funext scope world
  show (Activity.andThen first next scope world, ([] : List ε))
    = andThen (of first) (fun value => of (next value)) scope world
  simp only [andThen, Activity.andThen, of]
  rcases first scope world with ⟨ending, after⟩
  cases ending <;> rfl

/-- A sequence reports as its last part does. -/
theorem report_bind (f : β → Option δ) (first : Activity σ α) (next : α → Activity σ β) :
    report f (first >>= next) = of first >>= fun value => report f (next value) := by
  funext scope world
  show report f (Activity.andThen first next) scope world
    = andThen (of first) (fun value => report f (next value)) scope world
  simp only [andThen, report, Activity.andThen, of]
  rcases first scope world with ⟨ending, after⟩
  cases ending <;> rfl

/-- What its first part reports, a sequence reports at its end, if the rest always comes to an end
of which the same is reported. -/
theorem report_bind_of_done (f : α → Option δ) (g : β → Option δ) (first : Activity σ α)
    {next : α → Activity σ β} (ends : ∀ value scope world, ∃ result,
      (next value scope world).1 = .done result ∧ g result = f value) :
    (report f first >>= fun value => of (next value)) = report g (first >>= next) := by
  funext scope world
  show andThen (report f first) (fun value => of (next value)) scope world
    = report g (Activity.andThen first next) scope world
  simp only [andThen, report, Activity.andThen, of]
  rcases first scope world with ⟨ending, after⟩
  cases ending with
  | done value =>
    obtain ⟨result, done, same⟩ := ends value scope after
    simp only [done, same, List.append_nil]
  | panicked panic => rfl
  | expired => rfl
  | endless => rfl

/-- What is retold of a sequence is what is retold of its parts. -/
theorem retell_bind (f : ε → Option δ) (first : Logged ε σ α) (next : α → Logged ε σ β) :
    retell f (first >>= next) = retell f first >>= fun value => retell f (next value) := by
  funext scope world
  unfold retell
  rw [bind_apply]
  refine Eq.trans ?_ (bind_apply (retell f first) (fun value => retell f (next value)) _ _).symm
  have same : plain (retell f first) = plain first := rfl
  rw [same]
  cases (plain first scope world).1 with
  | done value => exact congrArg (Prod.mk _) List.filterMap_append
  | panicked panic => rfl
  | expired => rfl
  | endless => rfl

theorem retell_note_bind_of_none {f : ε → Option δ} {event : Scope → World σ → ε}
    {next : Unit → Logged ε σ β} (silent : ∀ scope world, f (event scope world) = none) :
    retell f (note event >>= next) = retell f (next ()) := by
  funext scope world
  show (_, (event scope world :: events (next ()) scope world).filterMap f) = (_, _)
  rw [List.filterMap_cons_none (silent _ _)]
  rfl

theorem retell_watch_of_none {f : ε → Option δ} {event : Scope → World σ → Ending α → ε}
    (act : Activity σ α) (silent : ∀ scope world ending, f (event scope world ending) = none) :
    retell f (watch event act) = of act := by
  funext scope world
  show (_, [event scope world _].filterMap f) = (_, [])
  rw [List.filterMap_cons_none (silent _ _ _)]
  rfl

/-- What is retold of the end of an activity may be a report of its value. -/
theorem retell_watch_of_report {f : ε → Option δ} {event : Scope → World σ → Ending α → ε}
    (g : α → Option δ) (act : Activity σ α)
    (tells : ∀ scope world value, f (event scope world (.done value)) = g value)
    (panicked : ∀ scope world panic, f (event scope world (.panicked panic)) = none)
    (expired : ∀ scope world, f (event scope world .expired) = none)
    (endless : ∀ scope world, f (event scope world .endless) = none) :
    retell f (watch event act) = report g act := by
  funext scope world
  show (_, [event scope world (act scope world).1].filterMap f) = _
  unfold report
  cases ending : (act scope world).1 with
  | done value =>
    simp only
    cases given : g value with
    | none => rw [List.filterMap_cons_none ((tells _ _ _).trans given)]; rfl
    | some event => rw [List.filterMap_cons_some ((tells _ _ _).trans given)]; rfl
  | panicked panic =>
    rw [List.filterMap_cons_none (panicked scope world panic)]
    rfl
  | expired =>
    rw [List.filterMap_cons_none (expired scope world)]
    rfl
  | endless =>
    rw [List.filterMap_cons_none (endless scope world)]
    rfl

/-- What is told after a part that is done comes after what that part tells. -/
theorem events_bind_of_done {first : Logged ε σ α} {next : α → Logged ε σ β} {scope : Scope}
    {world : World σ} {value : α} (done : (plain first scope world).1 = .done value) :
    events (first >>= next) scope world = events first scope world
      ++ events (next value) scope (plain first scope world).2 := by
  unfold events
  rw [bind_apply, done]
  rfl

/-- What is told by a part that is not done is all that is told. -/
theorem events_bind_of_not_done {first : Logged ε σ α} {next : α → Logged ε σ β} {scope : Scope}
    {world : World σ} (undone : ∀ value, (plain first scope world).1 ≠ .done value) :
    events (first >>= next) scope world = events first scope world := by
  cases ending : (plain first scope world).1 with
  | done value => exact absurd ending (undone value)
  | panicked panic => unfold events; rw [bind_apply, ending]; rfl
  | expired => unfold events; rw [bind_apply, ending]; rfl
  | endless => unfold events; rw [bind_apply, ending]; rfl

/-- **An event of a sequence** comes from its first part, or that part is done and the event comes
from what follows it. -/
theorem mem_events_bind {first : Logged ε σ α} {next : α → Logged ε σ β} {scope : Scope}
    {world : World σ} {event : ε} :
    event ∈ events (first >>= next) scope world ↔ event ∈ events first scope world ∨
      ∃ value, (plain first scope world).1 = .done value ∧
        event ∈ events (next value) scope (plain first scope world).2 := by
  by_cases done : ∃ value, (plain first scope world).1 = .done value
  · obtain ⟨value, done⟩ := done
    rw [events_bind_of_done done, List.mem_append]
    constructor
    · rintro (early | late)
      · exact Or.inl early
      · exact Or.inr ⟨value, done, late⟩
    · rintro (early | ⟨other, sameDone, late⟩)
      · exact Or.inl early
      · rw [done] at sameDone
        cases sameDone
        exact Or.inr late
  · rw [events_bind_of_not_done (not_exists.mp done)]
    constructor
    · exact Or.inl
    · rintro (early | ⟨value, isDone, _⟩)
      · exact early
      · exact absurd ⟨value, isDone⟩ done

end Logged

end Switchboard
