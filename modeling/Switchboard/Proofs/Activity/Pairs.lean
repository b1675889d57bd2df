import Switchboard.Proofs.Activity.Log
/-!
Logged activities in step with each other.

Two activities that are begun in one and the same world are in step if they end in the same way, in
the same world, and tell the same, as far as it is shown. Their values need not be equal: they are
related, and what goes on with related values has to be in step again.

* `Logged.InStep.bind`: sequences of parts that are in step are in step.
* `Logged.InStep.plain_eq`: activities in step with equal values are the same.
-/

namespace Switchboard

variable {σ α α' β β' : Type}

/-- **Two endings of one kind**, with related values if there are values. -/
inductive Ending.Paired (related : α → α' → Prop) : Ending α → Ending α' → Prop where
  | done {value : α} {value' : α'} (holds : related value value') :
      Paired related (.done value) (.done value')
  | panicked (panic : Panic) : Paired related (.panicked panic) (.panicked panic)
  | expired : Paired related .expired .expired
  | endless : Paired related .endless .endless

theorem Ending.Paired.mono {related related' : α → α' → Prop} {one : Ending α} {other : Ending α'}
    (paired : one.Paired related other)
    (weaker : ∀ value value', related value value' → related' value value') :
    one.Paired related' other := by
  cases paired with
  | done holds => exact .done (weaker _ _ holds)
  | panicked panic => exact .panicked panic
  | expired => exact .expired
  | endless => exact .endless

theorem Ending.Paired.eq {one other : Ending α} (paired : one.Paired Eq other) : one = other := by
  cases paired with
  | done same => rw [same]
  | panicked panic => rfl
  | expired => rfl
  | endless => rfl

namespace Logged

variable {ε δ : Type} {told : ε → δ} {related related' : α → α' → Prop}

/-- **Two logged activities are in step** if their endings are paired, and their worlds and what is
shown of their events are the same. -/
def InStep (told : ε → δ) (related : α → α' → Prop) (one : Logged ε σ α) (other : Logged ε σ α') :
    Prop :=
  ∀ scope world, (one.plain scope world).1.Paired related (other.plain scope world).1 ∧
    (one.plain scope world).2 = (other.plain scope world).2 ∧
    (one.events scope world).map told = (other.events scope world).map told

namespace InStep

/-- An activity that tells nothing is in step with itself. -/
theorem of (act : Activity σ α) :
    InStep told Eq (Logged.of act : Logged ε σ α) (Logged.of act) := by
  intro scope world
  refine ⟨?_, rfl, rfl⟩
  show (act scope world).1.Paired Eq (act scope world).1
  cases (act scope world).1 with
  | done value => exact .done rfl
  | panicked panic => exact .panicked panic
  | expired => exact .expired
  | endless => exact .endless

theorem pure {value : α} {value' : α'} (holds : related value value') :
    InStep told related (Pure.pure value : Logged ε σ α) (Pure.pure value') :=
  fun _ _ => ⟨.done holds, rfl, rfl⟩

theorem note {event event' : Scope → World σ → ε}
    (shown : ∀ scope world, told (event scope world) = told (event' scope world)) :
    InStep told Eq (Logged.note event) (Logged.note event') :=
  fun scope world => ⟨.done rfl, rfl, congrArg (fun one => [one]) (shown scope world)⟩

/-- **Sequences of parts that are in step are in step.** -/
theorem bind {first : Logged ε σ α} {first' : Logged ε σ α'} {next : α → Logged ε σ β}
    {next' : α' → Logged ε σ β'} {after : β → β' → Prop} (inStep : InStep told related first first')
    (later : ∀ value value', related value value' →
      InStep told after (next value) (next' value')) :
    InStep told after (first >>= next) (first' >>= next') := by
  intro scope world
  obtain ⟨endings, worlds, events⟩ := inStep scope world
  unfold plain Logged.events
  rw [bind_apply, bind_apply, worlds]
  generalize (plain first scope world).1 = ending at endings
  generalize (plain first' scope world).1 = ending' at endings
  cases endings with
  | done holds =>
    obtain ⟨endings, worlds, eventsLater⟩ := later _ _ holds scope (plain first' scope world).2
    refine ⟨endings, worlds, ?_⟩
    show List.map told (_ ++ _) = List.map told (_ ++ _)
    rw [List.map_append, List.map_append, events, eventsLater]
  | panicked panic => exact ⟨.panicked panic, rfl, events⟩
  | expired => exact ⟨.expired, rfl, events⟩
  | endless => exact ⟨.endless, rfl, events⟩

theorem mono {one : Logged ε σ α} {other : Logged ε σ α'} (inStep : InStep told related one other)
    (weaker : ∀ value value', related value value' → related' value value') :
    InStep told related' one other := by
  intro scope world
  obtain ⟨endings, rest⟩ := inStep scope world
  exact ⟨endings.mono weaker, rest⟩

/-- In step with equal values, two activities are the same but for what they tell. -/
theorem plain_eq {one other : Logged ε σ α} (inStep : InStep told Eq one other) :
    one.plain = other.plain := by
  funext scope world
  obtain ⟨endings, worlds, -⟩ := inStep scope world
  exact Prod.ext endings.eq worlds

/-- In step with values of which a function makes the same, two activities come to the same by
it. -/
theorem map_plain_eq {γ : Type} {f : α → γ} {one other : Logged ε σ α}
    (inStep : InStep told (fun value value' => f value = f value') one other) :
    f <$> one.plain = f <$> other.plain := by
  funext scope world
  obtain ⟨endings, worlds, -⟩ := inStep scope world
  rw [← bind_pure_comp, ← bind_pure_comp]
  show Activity.andThen one.plain (fun value => Activity.done (f value)) scope world
    = Activity.andThen other.plain (fun value => Activity.done (f value)) scope world
  unfold Activity.andThen
  rcases ran : one.plain scope world with ⟨ending, after⟩
  rcases ran' : other.plain scope world with ⟨ending', after'⟩
  rw [ran, ran'] at endings worlds
  cases worlds
  cases endings with
  | done same => exact congrArg (fun made => (Ending.done made, after)) same
  | panicked panic => rfl
  | expired => rfl
  | endless => rfl

end InStep

end Logged

end Switchboard
