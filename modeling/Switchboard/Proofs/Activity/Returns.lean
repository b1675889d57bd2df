import Switchboard.Proofs.Activity.Clock
/-!
Activities that come to an end.

An activity ends by itself if it does not go on for ever and nothing but a deadline of its scope cuts
it off. It is steady if it does not break off either, and then it is done with a value unless a
deadline cuts it off or it goes on for ever. Whatever an activity does, with a deadline of its own
and taken to where it breaks off it is steady. That it may still go on for ever is no matter of
deadlines, since these cut off what waits.

* `Activity.Steady.bind`: a sequence of steady parts is steady.
* `Activity.Steady.within_attempt`: an activity with a deadline of its own, taken to where it breaks
  off, is steady.
* `Activity.bind_endless_iff`: a sequence goes on for ever just if one of its parts does.
-/

namespace Switchboard

variable {σ α β : Type}

/-- The value with which an activity is done, if it is. -/
def Ending.value? : Ending α → Option α
  | .done value => some value
  | _ => none

/-- An ending with what a function makes of the value, if there is one. -/
def Ending.map (f : α → β) : Ending α → Ending β
  | .done value => .done (f value)
  | .panicked panic => .panicked panic
  | .expired => .expired
  | .endless => .endless

namespace Activity

/-- **Ends by itself**: nothing but a deadline keeps the activity from being done or breaking off. -/
def Ends (act : Activity σ α) : Prop := ∀ scope world,
  (act scope world).1 ≠ .endless ∧ ((act scope world).1 = .expired → scope.deadline ≠ none)

/-- **Steady**: unless a deadline cuts it off, the activity is done with a value or goes on for
ever. -/
def Steady (act : Activity σ α) : Prop := ∀ scope world,
  (∃ value, (act scope world).1 = .done value) ∨
    ((act scope world).1 = .expired ∧ scope.deadline ≠ none) ∨
    (act scope world).1 = .endless

theorem Steady.of_done {act : Activity σ α}
    (done : ∀ scope world, ∃ value, (act scope world).1 = .done value) : act.Steady :=
  fun scope world => Or.inl (done scope world)

theorem Steady.pure (value : α) : (Pure.pure value : Activity σ α).Steady :=
  .of_done fun _ _ => ⟨value, rfl⟩

/-- A sequence is cut off with its first part. -/
theorem bind_of_expired {first : Activity σ α} {next : α → Activity σ β} {scope : Scope}
    {world : World σ} (expired : (first scope world).1 = .expired) :
    ((first >>= next) scope world).1 = .expired := by
  show (andThen first next scope world).1 = .expired
  unfold andThen
  split <;> simp_all

/-- A sequence goes on for ever with its first part. -/
theorem bind_of_endless {first : Activity σ α} {next : α → Activity σ β} {scope : Scope}
    {world : World σ} (endless : (first scope world).1 = .endless) :
    ((first >>= next) scope world).1 = .endless := by
  show (andThen first next scope world).1 = .endless
  unfold andThen
  split <;> simp_all

/-- **A sequence of steady parts is steady.** -/
theorem Steady.bind {first : Activity σ α} {next : α → Activity σ β} (steady : first.Steady)
    (later : ∀ value, (next value).Steady) : (first >>= next).Steady := by
  intro scope world
  rcases steady scope world with ⟨value, done⟩ | ⟨expired, given⟩ | endless
  · rw [bind_of_done done]
    exact later value scope _
  · exact Or.inr (Or.inl ⟨bind_of_expired expired, given⟩)
  · exact Or.inr (Or.inr (bind_of_endless endless))

/-- What ends by itself is steady, taken to where it breaks off. -/
theorem Steady.attempt {act : Activity σ α} (ends : act.Ends) : act.attempt.Steady := by
  intro scope world
  unfold Activity.attempt
  rcases ran : act scope world with ⟨ending, after⟩
  cases ending with
  | done value => exact Or.inl ⟨_, rfl⟩
  | panicked panic => exact Or.inl ⟨_, rfl⟩
  | expired => exact Or.inr (Or.inl ⟨rfl, (ends scope world).2 (congrArg Prod.fst ran)⟩)
  | endless => exact absurd (congrArg Prod.fst ran) (ends scope world).1

/-- **With a deadline of its own**, taken to where it breaks off, an activity is steady. -/
theorem Steady.within_attempt (limit : Span) (act : Activity σ α) :
    (within limit act.attempt).Steady := by
  intro scope world
  unfold within Activity.attempt
  simp only
  rcases act { scope with deadline := some (earlier scope.deadline (world.now + limit)) } world
    with ⟨ending, after⟩
  cases ending with
  | done value => exact Or.inl ⟨_, rfl⟩
  | panicked panic => exact Or.inl ⟨_, rfl⟩
  | endless => exact Or.inr (Or.inr rfl)
  | expired =>
    simp only
    split
    · exact Or.inl ⟨_, rfl⟩
    · rename_i outer
      refine Or.inr (Or.inl ⟨rfl, fun none => outer ?_⟩)
      rw [none]
      exact Nat.le_refl _

/-- What is done is done, taken to where it breaks off. -/
theorem attempt_of_done {act : Activity σ α} {scope : Scope} {world : World σ} {value : α}
    (done : (act scope world).1 = .done value) :
    (act.attempt scope world).1 = .done (.ok value) := by
  unfold Activity.attempt
  split <;> simp_all

theorem Steady.wait (length : Span) : (wait length : Activity σ Unit).Steady := by
  intro scope world
  unfold Activity.wait
  cases scope.deadline with
  | none => exact Or.inl ⟨(), rfl⟩
  | some deadline =>
    simp only
    split
    · exact Or.inl ⟨(), rfl⟩
    · exact Or.inr (Or.inl ⟨rfl, Option.some_ne_none _⟩)

/-! ### Activities that go on for ever -/

/-- A wait comes to an end, or a deadline to it. -/
theorem wait_ne_endless (length : Span) (scope : Scope) (world : World σ) :
    (wait length scope world).1 ≠ .endless := by
  by_cases reaches : scope.Reaches (world.now + length)
  · rw [wait_of_reaches reaches]
    nofun
  · obtain ⟨moment, cut⟩ := wait_of_not_reaches reaches
    rw [cut]
    nofun

/-- **A sequence goes on for ever** just if its first part does, or that is done and the rest does. -/
theorem bind_endless_iff {first : Activity σ α} {next : α → Activity σ β} {scope : Scope}
    {world : World σ} : ((first >>= next) scope world).1 = .endless ↔
      (first scope world).1 = .endless ∨ ∃ value, (first scope world).1 = .done value ∧
        (next value scope (first scope world).2).1 = .endless := by
  show (andThen first next scope world).1 = .endless ↔ _
  unfold andThen
  rcases first scope world with ⟨ending, after⟩
  cases ending <;> simp

theorem attempt_endless_iff {act : Activity σ α} {scope : Scope} {world : World σ} :
    (act.attempt scope world).1 = .endless ↔ (act scope world).1 = .endless := by
  unfold Activity.attempt
  rcases act scope world with ⟨ending, after⟩
  cases ending <;> simp

/-- **No deadline of its own** keeps an activity from going on for ever. -/
theorem within_endless_iff {limit : Span} {act : Activity σ α} {scope : Scope} {world : World σ} :
    (within limit act scope world).1 = .endless ↔
      (act (limited limit scope world) world).1 = .endless := by
  unfold within limited
  simp only
  rcases act { scope with deadline := some (earlier scope.deadline (world.now + limit)) } world
    with ⟨ending, after⟩
  cases ending with
  | done value => simp
  | panicked panic => simp
  | endless => simp
  | expired =>
    simp only [reduceCtorEq, iff_false]
    split <;> simp

end Activity

end Switchboard
