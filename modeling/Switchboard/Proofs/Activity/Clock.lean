import Switchboard.Activity
/-!
Activities and the clock.

An activity is timely if it neither turns the clock back nor runs on after the deadline of its
scope. Waiting is timely, and so is whatever is made of timely parts.

* `Activity.wait_done_iff`: waiting ends well exactly if it ends by the deadline.
* `Activity.Timely.bind`: a sequence of timely parts is timely.
* `Activity.Timely.within`: a timely activity with a deadline of its own is timely, and
  `Activity.Timely.within_now_le`: it takes no more time than that.
-/

namespace Switchboard

/-- A moment comes no later than the deadline of a scope, if there is one. -/
def Scope.Reaches (scope : Scope) (moment : Span) : Prop :=
  ∀ deadline, scope.deadline = some deadline → moment ≤ deadline

instance (scope : Scope) (moment : Span) : Decidable (scope.Reaches moment) :=
  decidable_of_iff (∀ deadline ∈ scope.deadline, moment ≤ deadline) Iff.rfl

namespace Activity

variable {σ α β : Type}

/-- Waiting ends well exactly if it ends by the deadline. -/
theorem wait_done_iff {length : Span} {scope : Scope} {world : World σ} {value : Unit} :
    (wait length scope world).1 = .done value ↔ scope.Reaches (world.now + length) := by
  unfold wait Scope.Reaches
  cases scope.deadline with
  | none => exact ⟨fun _ deadline absent => (nomatch absent), fun _ => rfl⟩
  | some deadline =>
    constructor
    · intro done moment same
      cases same
      by_cases inTime : world.now + length ≤ deadline
      · exact inTime
      · simp only [if_neg inTime] at done
        cases done
    · intro reaches
      simp only [if_pos (reaches deadline rfl)]

/-- A wait that ends well moves the clock and nothing else. -/
theorem wait_of_reaches {length : Span} {scope : Scope} {world : World σ}
    (reaches : scope.Reaches (world.now + length)) :
    wait length scope world = (.done (), { world with now := world.now + length }) := by
  unfold wait
  split
  · rfl
  · rename_i deadline given
    rw [if_pos (reaches deadline given)]

/-- A wait that a deadline cuts off moves the clock and nothing else. -/
theorem wait_of_not_reaches {length : Span} {scope : Scope} {world : World σ}
    (late : ¬ scope.Reaches (world.now + length)) :
    ∃ moment, wait length scope world = (.expired, { world with now := moment }) := by
  unfold wait
  cases given : scope.deadline with
  | none => exact absurd (fun _ absent => by rw [given] at absent; cases absent) late
  | some deadline =>
    have beyond : ¬ world.now + length ≤ deadline := fun inTime => late fun moment same => by
      rw [given] at same
      cases same
      exact inTime
    exact ⟨deadline, by simp only [if_neg beyond]⟩

/-- What is cut off in its first part is cut off there. -/
theorem bind_of_cut {first : Activity σ α} {next : α → Activity σ β} {scope : Scope}
    {world after : World σ} (cut : first scope world = (.expired, after)) :
    (first >>= next) scope world = (.expired, after) := by
  show andThen first next scope world = _
  unfold andThen
  rw [cut]

/-! ### Activities that take no time -/

/-- An activity that leaves the clock alone. -/
def Still (act : Activity σ α) : Prop :=
  ∀ scope world, (act scope world).2.now = world.now

theorem Still.pure (value : α) : (Pure.pure value : Activity σ α).Still := fun _ _ => rfl

theorem Still.world : (Activity.world : Activity σ (World σ)).Still := fun _ _ => rfl

theorem Still.ambient : (Activity.ambient : Activity σ (Option JarName)).Still := fun _ _ => rfl

theorem Still.spin : (spin : Activity σ α).Still := fun _ _ => rfl

theorem Still.bind {first : Activity σ α} {next : α → Activity σ β} (still : first.Still)
    (later : ∀ value, (next value).Still) : (first >>= next).Still := by
  intro scope world
  by_cases done : ∃ value, (first scope world).1 = .done value
  · obtain ⟨value, done⟩ := done
    rw [bind_of_done done, later, still]
  · rw [(bind_of_not_done (not_exists.mp done)).1, still]

theorem Still.fetchCookies (name : JarName) (uri : Uri) :
    (fetchCookies name uri : Activity σ (List Cookie)).Still := fun _ _ => rfl

theorem Still.storeCookies (name : JarName) (cookies : List Cookie) (source : Uri) :
    (storeCookies name cookies source : Activity σ Unit).Still := fun _ _ => rfl

/-! ### Timely activities -/

/-- **Timely**: within its deadline, an activity does not turn the clock back and ends by the
deadline. -/
def Timely (act : Activity σ α) : Prop :=
  ∀ scope world, scope.Reaches world.now →
    world.now ≤ (act scope world).2.now ∧ scope.Reaches (act scope world).2.now

/-- What leaves the clock alone is timely. -/
theorem Timely.of_still {act : Activity σ α} (still : act.Still) : act.Timely := by
  intro scope world reaches
  rw [still]
  exact ⟨Nat.le_refl _, reaches⟩

theorem Timely.wait (length : Span) : (Activity.wait length : Activity σ Unit).Timely := by
  intro scope world reaches
  by_cases later : scope.Reaches (world.now + length)
  · rw [wait_of_reaches later]
    exact ⟨Nat.le_add_right _ _, later⟩
  · unfold Activity.wait
    cases given : scope.deadline with
    | none => exact absurd (fun _ absent => by rw [given] at absent; cases absent) later
    | some deadline =>
      have late : ¬ world.now + length ≤ deadline := fun inTime => later fun moment same => by
        rw [given] at same
        cases same
        exact inTime
      simp only [if_neg late]
      refine ⟨reaches deadline given, fun moment same => ?_⟩
      rw [given] at same
      cases same
      exact Nat.le_refl _

/-- **A sequence of timely parts is timely.** -/
theorem Timely.bind {first : Activity σ α} {next : α → Activity σ β} (timely : first.Timely)
    (later : ∀ value, (next value).Timely) : (first >>= next).Timely := by
  intro scope world reaches
  obtain ⟨forward, kept⟩ := timely scope world reaches
  by_cases done : ∃ value, (first scope world).1 = .done value
  · obtain ⟨value, done⟩ := done
    rw [bind_of_done done]
    obtain ⟨onward, stillKept⟩ := later value scope _ kept
    exact ⟨Nat.le_trans forward onward, stillKept⟩
  · rw [(bind_of_not_done (not_exists.mp done)).1]
    exact ⟨forward, kept⟩

/-- What comes after an activity leaves its world alone if it leaves every world alone. -/
theorem bind_world_of_still {first : Activity σ α} {next : α → Activity σ β}
    (still : ∀ value scope world, (next value scope world).2 = world) (scope : Scope)
    (world : World σ) : ((first >>= next) scope world).2 = (first scope world).2 := by
  by_cases done : ∃ value, (first scope world).1 = .done value
  · obtain ⟨value, done⟩ := done
    rw [bind_of_done done, still]
  · exact (bind_of_not_done (not_exists.mp done)).1

theorem attempt_world (act : Activity σ α) (scope : Scope) (world : World σ) :
    (act.attempt scope world).2 = (act scope world).2 := by
  unfold attempt
  rcases act scope world with ⟨ending, after⟩
  cases ending <;> rfl

theorem Timely.attempt {act : Activity σ α} (timely : act.Timely) : act.attempt.Timely := by
  intro scope world reaches
  rw [attempt_world]
  exact timely scope world reaches

/-! ### Deadlines within deadlines -/

/-- The scope of an activity with a deadline of its own. -/
def limited (limit : Span) (scope : Scope) (world : World σ) : Scope :=
  { scope with deadline := some (earlier scope.deadline (world.now + limit)) }

/-- What an activity with a deadline of its own does, it does within that deadline. -/
theorem within_world (limit : Span) (act : Activity σ α) (scope : Scope) (world : World σ) :
    (within limit act scope world).2 = (act (limited limit scope world) world).2 := by
  unfold within limited
  simp only
  split <;> rename_i ran <;> rw [ran]

/-- What comes by the deadlines of both comes by the earlier one. -/
theorem limited_reaches_iff {limit : Span} {scope : Scope} {world : World σ} {moment : Span} :
    (limited limit scope world).Reaches moment ↔
      scope.Reaches moment ∧ moment ≤ world.now + limit := by
  unfold limited Scope.Reaches
  cases given : scope.deadline with
  | none => simp [earlier]
  | some deadline =>
    simp only [earlier, Option.some.injEq, forall_eq']
    show moment.nanos ≤ (min (world.now + limit) deadline).nanos ↔ _
    rw [Span.nanos_min, Nat.le_min]
    exact And.comm

theorem Timely.within_spec {act : Activity σ α} (timely : act.Timely) (limit : Span)
    {scope : Scope} {world : World σ} (reaches : scope.Reaches world.now) :
    world.now ≤ (Activity.within limit act scope world).2.now ∧
      (limited limit scope world).Reaches (Activity.within limit act scope world).2.now := by
  rw [within_world]
  exact timely _ world (limited_reaches_iff.mpr ⟨reaches, Nat.le_add_right _ _⟩)

theorem Timely.within {act : Activity σ α} (timely : act.Timely) (limit : Span) :
    (Activity.within limit act).Timely := by
  intro scope world reaches
  obtain ⟨forward, kept⟩ := timely.within_spec limit reaches
  exact ⟨forward, (limited_reaches_iff.mp kept).1⟩

/-- **A timely activity with a deadline of its own** ends by it. -/
theorem Timely.within_now_le {act : Activity σ α} (timely : act.Timely) (limit : Span)
    {scope : Scope} {world : World σ} (reaches : scope.Reaches world.now) :
    (Activity.within limit act scope world).2.now ≤ world.now + limit :=
  (limited_reaches_iff.mp (timely.within_spec limit reaches).2).2

/-! ### Activities that take some time at most -/

/-- **Takes at most some time**: a timely activity that ends no later than that after it began. -/
structure Takes (act : Activity σ α) (limit : Span) : Prop where
  timely : act.Timely
  short : ∀ scope world, scope.Reaches world.now → (act scope world).2.now ≤ world.now + limit

theorem Takes.of_still {act : Activity σ α} (still : act.Still) (limit : Span) :
    act.Takes limit := by
  refine ⟨.of_still still, fun scope world _ => ?_⟩
  rw [still]
  exact Nat.le_add_right _ _

theorem Takes.of_le {act : Activity σ α} {shorter longer : Span} (takes : act.Takes shorter)
    (le : shorter ≤ longer) : act.Takes longer :=
  ⟨takes.timely, fun scope world reaches =>
    Nat.le_trans (takes.short scope world reaches) (Nat.add_le_add_left le _)⟩

theorem Takes.wait (length : Span) : (Activity.wait length : Activity σ Unit).Takes length := by
  refine ⟨.wait length, fun scope world _ => ?_⟩
  simp only [Activity.wait]
  split
  · exact Nat.le_refl _
  · split
    · exact Nat.le_refl _
    · rename_i late
      exact Nat.le_of_lt (Nat.lt_of_not_le late)

theorem Takes.within {act : Activity σ α} (timely : act.Timely) (limit : Span) :
    (Activity.within limit act).Takes limit :=
  ⟨timely.within limit, fun _ _ reaches => timely.within_now_le limit reaches⟩

/-- What takes no time before or after an activity does not make it longer. -/
theorem Takes.after_still {first : Activity σ α} {next : α → Activity σ β} {limit : Span}
    (still : first.Still) (later : ∀ value, (next value).Takes limit) :
    (first >>= next).Takes limit := by
  refine ⟨.bind (.of_still still) fun value => (later value).timely, fun scope world reaches => ?_⟩
  by_cases done : ∃ value, (first scope world).1 = .done value
  · obtain ⟨value, done⟩ := done
    have reachesLater : scope.Reaches (first scope world).2.now := by
      rw [still]
      exact reaches
    have short := (later value).short scope (first scope world).2 reachesLater
    rw [bind_of_done done]
    rw [still] at short
    exact short
  · rw [(bind_of_not_done (not_exists.mp done)).1, still]
    exact Nat.le_add_right _ _

theorem Takes.before_still {first : Activity σ α} {next : α → Activity σ β} {limit : Span}
    (takes : first.Takes limit) (still : ∀ value, (next value).Still) :
    (first >>= next).Takes limit := by
  refine ⟨.bind takes.timely fun value => .of_still (still value), fun scope world reaches => ?_⟩
  by_cases done : ∃ value, (first scope world).1 = .done value
  · obtain ⟨value, done⟩ := done
    rw [bind_of_done done, still]
    exact takes.short scope world reaches
  · rw [(bind_of_not_done (not_exists.mp done)).1]
    exact takes.short scope world reaches

end Activity

end Switchboard
