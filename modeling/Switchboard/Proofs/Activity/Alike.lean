import Switchboard.Proofs.Activity.Log
/-!
Activities that go alike.

Two runs are compared up to a view of their worlds: the clock, the calendar, the jars, the counters,
and the part of the state that a function picks out. Two activities go alike if, begun in worlds of
the same view, they end in the same way in worlds of the same view. What is left out of the view may
differ, say a log that endpoints keep of what they were asked.

* `Activity.Alike.bind`: sequences of parts that go alike go alike.
* `Activity.Meets` is for two activities that may part: it says something of their values and worlds
  only where both are done.
* `Logged.Alike` is for logged activities that also tell the same, as far as it is shown.
-/

namespace Switchboard

variable {σ τ α β : Type}

/-- A world of which only part of the state is seen. -/
def World.view (core : σ → τ) (world : World σ) : World τ :=
  { now := world.now, date := world.date, jars := world.jars, hits := world.hits
    state := core world.state }

theorem World.view_eq_iff {core : σ → τ} {world world' : World σ} :
    world.view core = world'.view core ↔ world.now = world'.now ∧ world.date = world'.date ∧
      world.jars = world'.jars ∧ world.hits = world'.hits ∧
      core world.state = core world'.state := by
  unfold view
  rw [World.mk.injEq]

namespace Activity

variable {core : σ → τ}

/-- **Two activities go alike** if they end in the same way where they begin in the same view. -/
def Alike (core : σ → τ) (one other : Activity σ α) : Prop :=
  ∀ scope world world', world.view core = world'.view core →
    (one scope world).1 = (other scope world').1 ∧
      (one scope world).2.view core = (other scope world').2.view core

theorem Alike.pure (value : α) : Alike core (Pure.pure value) (Pure.pure value) :=
  fun _ _ _ same => ⟨rfl, same⟩

theorem Alike.breakOff (panic : Panic) :
    Alike core (Activity.breakOff panic : Activity σ α) (Activity.breakOff panic) :=
  fun _ _ _ same => ⟨rfl, same⟩

theorem Alike.ambient : Alike core (Activity.ambient : Activity σ _) Activity.ambient :=
  fun _ _ _ same => ⟨rfl, same⟩

theorem Alike.spin : Alike core (Activity.spin : Activity σ α) Activity.spin :=
  fun _ _ _ same => ⟨rfl, same⟩

theorem Alike.bind {first first' : Activity σ α} {next next' : α → Activity σ β}
    (alike : Alike core first first') (later : ∀ value, Alike core (next value) (next' value)) :
    Alike core (first >>= next) (first' >>= next') := by
  intro scope world world' same
  obtain ⟨endings, views⟩ := alike scope world world' same
  show (andThen first next scope world).1 = (andThen first' next' scope world').1 ∧
    (andThen first next scope world).2.view core
      = (andThen first' next' scope world').2.view core
  unfold andThen
  rcases ran : first scope world with ⟨ending, after⟩
  rcases ran' : first' scope world' with ⟨ending', after'⟩
  rw [ran, ran'] at endings views
  cases endings
  cases ending with
  | done value => exact later value scope after after' views
  | panicked panic => exact ⟨rfl, views⟩
  | expired => exact ⟨rfl, views⟩
  | endless => exact ⟨rfl, views⟩

/-- What is done with the world may depend on more of it than is seen, if it goes alike. -/
theorem Alike.world_bind {next next' : World σ → Activity σ β}
    (later : ∀ world world', world.view core = world'.view core →
      Alike core (next world) (next' world')) :
    Alike core (Activity.world >>= next) (Activity.world >>= next') :=
  fun scope world world' same => later world world' same scope world world' same

theorem Alike.change {f f' : World σ → World σ}
    (same : ∀ world world', world.view core = world'.view core →
      (f world).view core = (f' world').view core) :
    Alike core (Activity.change f) (Activity.change f') :=
  fun _ world world' views => ⟨rfl, same world world' views⟩

theorem Alike.wait (length : Span) :
    Alike core (Activity.wait length : Activity σ Unit) (Activity.wait length) := by
  intro scope world world' same
  obtain ⟨now, rest⟩ := World.view_eq_iff.mp same
  simp only [Activity.wait]
  rw [now]
  split
  · exact ⟨rfl, World.view_eq_iff.mpr ⟨rfl, rest⟩⟩
  · split
    · exact ⟨rfl, World.view_eq_iff.mpr ⟨rfl, rest⟩⟩
    · exact ⟨rfl, World.view_eq_iff.mpr ⟨rfl, rest⟩⟩

theorem Alike.attempt {one other : Activity σ α} (alike : Alike core one other) :
    Alike core one.attempt other.attempt := by
  intro scope world world' same
  obtain ⟨endings, views⟩ := alike scope world world' same
  unfold Activity.attempt
  rcases ran : one scope world with ⟨ending, after⟩
  rcases ran' : other scope world' with ⟨ending', after'⟩
  rw [ran, ran'] at endings views
  cases endings
  cases ending <;> exact ⟨rfl, views⟩

theorem Alike.within {one other : Activity σ α} (alike : Alike core one other) (limit : Span) :
    Alike core (Activity.within limit one) (Activity.within limit other) := by
  intro scope world world' same
  have now := (World.view_eq_iff.mp same).1
  obtain ⟨endings, views⟩ := alike
    { scope with deadline := some (earlier scope.deadline (world.now + limit)) } world world' same
  unfold Activity.within
  rw [← now]
  simp only
  rcases ran : one _ world with ⟨ending, after⟩
  rcases ran' : other _ world' with ⟨ending', after'⟩
  rw [ran, ran'] at endings views
  cases endings
  cases ending <;> exact ⟨rfl, views⟩

/-! ### Cookies -/

theorem Alike.fetchCookies (name : JarName) (uri : Uri) :
    Alike core (Activity.fetchCookies name uri) (Activity.fetchCookies name uri) := by
  intro scope world world' same
  obtain ⟨now, date, jars, rest⟩ := World.view_eq_iff.mp same
  refine ⟨?_, World.view_eq_iff.mpr ⟨now, date, ?_, rest⟩⟩
  · show Ending.done ((world.jars name).fetch uri world.date).1
      = .done ((world'.jars name).fetch uri world'.date).1
    rw [jars, date]
  · funext other
    show (if other = name then ((world.jars name).fetch uri world.date).2 else world.jars other)
      = if other = name then ((world'.jars name).fetch uri world'.date).2 else world'.jars other
    rw [jars, date]

theorem Alike.storeCookies (name : JarName) (cookies : List Cookie) (source : Uri) :
    Alike core (Activity.storeCookies name cookies source)
      (Activity.storeCookies name cookies source) := by
  intro scope world world' same
  obtain ⟨now, date, jars, rest⟩ := World.view_eq_iff.mp same
  refine ⟨rfl, World.view_eq_iff.mpr ⟨now, date, ?_, rest⟩⟩
  funext other
  show (if other = name then (world.jars name).update cookies source world.date
      else world.jars other)
    = if other = name then (world'.jars name).update cookies source world'.date
      else world'.jars other
  rw [jars, date]

/-! ### Activities that may part -/

/-- Two activities **meet** a condition if it holds of their values and worlds where both are done,
having begun in the same view. -/
def Meets (core : σ → τ) (post : α → World σ → α → World σ → Prop) (one other : Activity σ α) :
    Prop :=
  ∀ scope world world', world.view core = world'.view core → ∀ value after value' after',
    one scope world = (.done value, after) → other scope world' = (.done value', after') →
      post value after value' after'

theorem Meets.pure {post : α → World σ → α → World σ → Prop} {value value' : α}
    (holds : ∀ world world', world.view core = world'.view core → post value world value' world') :
    Meets core post (Pure.pure value) (Pure.pure value') := by
  intro scope world world' same _ _ _ _ ran ran'
  cases ran
  cases ran'
  exact holds world world' same

theorem Meets.bind {post : β → World σ → β → World σ → Prop} {first first' : Activity σ α}
    {next next' : α → Activity σ β} (alike : Alike core first first')
    (later : ∀ value, Meets core post (next value) (next' value)) :
    Meets core post (first >>= next) (first' >>= next') := by
  intro scope world world' same value after value' after' ran ran'
  obtain ⟨endings, views⟩ := alike scope world world' same
  obtain ⟨middle, done, _⟩ := bind_done_iff.mp (congrArg Prod.fst ran)
  rw [bind_of_done done] at ran
  rw [bind_of_done (endings ▸ done)] at ran'
  exact later middle scope _ _ views value after value' after' ran ran'

end Activity

/-! ### Logs -/

namespace Logged

variable {ε δ : Type} {core : σ → τ} {told : ε → Option δ}

/-- **Two logged activities go alike** if the activities do and what is shown of their events is the
same. Some events may not be shown at all. -/
def Alike (core : σ → τ) (told : ε → Option δ) (one other : Logged ε σ α) : Prop :=
  ∀ scope world world', world.view core = world'.view core →
    (one.plain scope world).1 = (other.plain scope world').1 ∧
      (one.plain scope world).2.view core = (other.plain scope world').2.view core ∧
      (one.events scope world).filterMap told = (other.events scope world').filterMap told

theorem Alike.of {one other : Activity σ α} (alike : Activity.Alike core one other) :
    Alike core told (Logged.of one) (Logged.of other) := by
  intro scope world world' same
  obtain ⟨endings, views⟩ := alike scope world world' same
  exact ⟨endings, views, rfl⟩

theorem Alike.pure (value : α) : Alike core told (Pure.pure value) (Pure.pure value) :=
  .of (.pure value)

theorem Alike.note {event event' : Scope → World σ → ε}
    (shown : ∀ scope world world', world.view core = world'.view core →
      told (event scope world) = told (event' scope world')) :
    Alike core told (Logged.note event) (Logged.note event') := by
  intro scope world world' same
  refine ⟨rfl, same, ?_⟩
  show [event scope world].filterMap told = [event' scope world'].filterMap told
  simp only [List.filterMap_cons, shown scope world world' same]

/-- What is shown of an activity may be how it ended, too. -/
theorem Alike.watch {event event' : Scope → World σ → Ending α → ε} {one other : Activity σ α}
    (alike : Activity.Alike core one other)
    (shown : ∀ scope world world' ending, world.view core = world'.view core →
      told (event scope world ending) = told (event' scope world' ending)) :
    Alike core told (Logged.watch event one) (Logged.watch event' other) := by
  intro scope world world' same
  obtain ⟨endings, views⟩ := alike scope world world' same
  refine ⟨endings, views, ?_⟩
  rw [events_watch, events_watch, ← endings]
  simp only [List.filterMap_cons, shown scope world world' _ same]

theorem Alike.bind {first first' : Logged ε σ α} {next next' : α → Logged ε σ β}
    (alike : Alike core told first first')
    (later : ∀ value, Alike core told (next value) (next' value)) :
    Alike core told (first >>= next) (first' >>= next') := by
  intro scope world world' same
  obtain ⟨endings, views, events⟩ := alike scope world world' same
  unfold plain Logged.events
  rw [bind_apply, bind_apply, ← endings]
  cases (plain first scope world).1 with
  | done value =>
    obtain ⟨endings, views, eventsLater⟩ := later value scope _ _ views
    refine ⟨endings, views, ?_⟩
    show List.filterMap told (_ ++ _) = List.filterMap told (_ ++ _)
    rw [List.filterMap_append, List.filterMap_append, events, eventsLater]
  | panicked panic => exact ⟨rfl, views, events⟩
  | expired => exact ⟨rfl, views, events⟩
  | endless => exact ⟨rfl, views, events⟩

end Logged

end Switchboard
