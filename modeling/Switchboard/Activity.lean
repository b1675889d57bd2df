import Switchboard.Cookie.Jar
import Switchboard.Time.Span
/-!
Activities: what takes time, uses cookie jars and may break off.

An activity runs within a scope, that is a deadline and perhaps an ambient jar, and on a world, that
is a clock, a calendar, the jars, the counters of features and whatever state the endpoints and
handlers keep. It ends with a value, by breaking off, or by still waiting when the deadline of its
scope comes; or it does not end, since it goes on for ever without waiting. A deadline cuts off what
waits and nothing else. Time passes only by waiting, and what is done exactly at the deadline is done
in time.

* `Activity.wait` is the only step that moves the clock.
* `Activity.spin` goes on for ever. No deadline ends it.
* `Activity.within` gives an activity a deadline of its own. If an outer deadline comes at the same
  moment, the inner one counts.
* `Activity.attempt` turns breaking off into a value.
-/

namespace Switchboard

/-- Why an activity broke off: the words that were given, if any. -/
structure Panic where
  words : Option String
  deriving DecidableEq, Repr

/-- What names a jar. -/
inductive JarName where
  /-- The jar that comes with an exchange. -/
  | shared
  | named (name : String)
  deriving DecidableEq, Repr, Inhabited

/-- What names the counter of a feature: the place where the feature is registered and the number
that it has there. -/
structure Counter where
  place : String
  number : Nat
  deriving DecidableEq, Repr, Inhabited

/-- What activities act on. -/
structure World (σ : Type) where
  /-- The time since the start. -/
  now : Span
  /-- The calendar time in whole seconds since the start of 1970, as a jar sees it. It is one moment:
  waiting does not advance it, and only endpoints and handlers can set another one, which jars see
  from their next use on. -/
  date : Int
  jars : JarName → Jar
  /-- How often each feature was run, counted in 64 bits. -/
  hits : Counter → UInt64
  state : σ

/-- What an activity runs within. -/
structure Scope where
  deadline : Option Span
  ambient : Option JarName
  deriving DecidableEq, Repr

/-- How an activity ends, if it does. -/
inductive Ending (α : Type) where
  | done (value : α)
  | panicked (panic : Panic)
  /-- It still waits when the deadline comes, or for ever if there is none. -/
  | expired
  /-- It goes on for ever without waiting. -/
  | endless
  deriving DecidableEq, Repr

/-- An activity on worlds with states of type `σ`. -/
def Activity (σ α : Type) : Type := Scope → World σ → Ending α × World σ

/-- The world in which nothing has happened yet. -/
def World.initial (date : Int) (state : σ) : World σ :=
  { now := Span.zero, date, jars := fun _ => Jar.empty, hits := fun _ => 0, state }

/-- The scope of what nothing limits. -/
def Scope.outermost : Scope := { deadline := none, ambient := none }

namespace Activity

variable {σ α β : Type}

/-! ### Sequences -/

/-- The activity that does nothing. -/
def done (value : α) : Activity σ α := fun _ world => (.done value, world)

/-- Goes on with the value of an activity, if there is one. -/
def andThen (first : Activity σ α) (next : α → Activity σ β) : Activity σ β := fun scope world =>
  match first scope world with
  | (.done value, world) => next value scope world
  | (.panicked panic, world) => (.panicked panic, world)
  | (.expired, world) => (.expired, world)
  | (.endless, world) => (.endless, world)

instance : Monad (Activity σ) where
  pure := done
  bind := andThen

/-- An activity that is done goes on with its value in the world that it leaves. -/
theorem bind_of_done {first : Activity σ α} {next : α → Activity σ β} {scope : Scope}
    {world : World σ} {value : α} (done : (first scope world).1 = .done value) :
    (first >>= next) scope world = next value scope (first scope world).2 := by
  show andThen first next scope world = _
  unfold andThen
  split <;> simp_all

/-- An activity that is not done ends the whole, in the world that it leaves. -/
theorem bind_of_not_done {first : Activity σ α} {next : α → Activity σ β} {scope : Scope}
    {world : World σ} (undone : ∀ value, (first scope world).1 ≠ .done value) :
    ((first >>= next) scope world).2 = (first scope world).2 ∧
      ∀ value, ((first >>= next) scope world).1 ≠ .done value := by
  show (andThen first next scope world).2 = _ ∧ ∀ value, (andThen first next scope world).1 ≠ _
  unfold andThen
  split <;> simp_all

/-- A sequence is done just if its first part is, and then the rest. -/
theorem bind_done_iff {first : Activity σ α} {next : α → Activity σ β} {scope : Scope}
    {world : World σ} {result : β} :
    ((first >>= next) scope world).1 = .done result ↔ ∃ value,
      (first scope world).1 = .done value ∧
        (next value scope (first scope world).2).1 = .done result := by
  constructor
  · intro finished
    by_cases done : ∃ value, (first scope world).1 = .done value
    · obtain ⟨value, done⟩ := done
      rw [bind_of_done done] at finished
      exact ⟨value, done, finished⟩
    · exact absurd finished ((bind_of_not_done (not_exists.mp done)).2 result)
  · rintro ⟨value, done, finished⟩
    rw [bind_of_done done]
    exact finished

instance : LawfulMonad (Activity σ) := LawfulMonad.mk' _
  (fun act => by
    funext scope world
    show andThen act (fun value => done value) scope world = _
    unfold andThen done
    split <;> simp_all)
  (fun _ _ => rfl)
  (fun first next last => by
    funext scope world
    show andThen (andThen first next) last scope world
      = andThen first (fun value => andThen (next value) last) scope world
    simp only [andThen]
    cases first scope world with
    | mk ending after => cases ending <;> rfl)

/-! ### Steps -/

/-- The world as it is. -/
def world : Activity σ (World σ) := fun _ world => (.done world, world)

/-- Changes the world. -/
def change (f : World σ → World σ) : Activity σ Unit := fun _ world => (.done (), f world)

/-- Breaks off. -/
def breakOff (panic : Panic) : Activity σ α := fun _ world => (.panicked panic, world)

/-- Goes on for ever. -/
def spin : Activity σ α := fun _ world => (.endless, world)

/-- Waits for some time, at most until the deadline. -/
def wait (length : Span) : Activity σ Unit := fun scope world =>
  let moment := world.now + length
  match scope.deadline with
  | none => (.done (), { world with now := moment })
  | some deadline =>
    if moment ≤ deadline then (.done (), { world with now := moment })
    else (.expired, { world with now := deadline })

/-! ### Scopes -/

/-- The earlier of a deadline and a moment. -/
def earlier (deadline : Option Span) (moment : Span) : Span :=
  match deadline with
  | some deadline => min moment deadline
  | none => moment

/-- Runs an activity for at most some time; `none` if it was not done then. An outer deadline that
comes first ends the whole. -/
def within (limit : Span) (act : Activity σ α) : Activity σ (Option α) := fun scope world =>
  let own := world.now + limit
  let deadline := earlier scope.deadline own
  match act { scope with deadline := some deadline } world with
  | (.done value, world) => (.done (some value), world)
  | (.panicked panic, world) => (.panicked panic, world)
  | (.expired, world) => (if own ≤ deadline then .done none else .expired, world)
  | (.endless, world) => (.endless, world)

/-- Runs an activity to its value or to where it breaks off. -/
def attempt (act : Activity σ α) : Activity σ (Except Panic α) := fun scope world =>
  match act scope world with
  | (.done value, world) => (.done (.ok value), world)
  | (.panicked panic, world) => (.done (.error panic), world)
  | (.expired, world) => (.expired, world)
  | (.endless, world) => (.endless, world)

/-- Runs an activity with an ambient jar. -/
def withAmbient (name : JarName) (act : Activity σ α) : Activity σ α := fun scope world =>
  act { scope with ambient := some name } world

/-- The ambient jar. -/
def ambient : Activity σ (Option JarName) := fun scope world => (.done scope.ambient, world)

/-! ### Jars and counters -/

/-- Puts a jar in the place of the one of a name. -/
def setJar (name : JarName) (jar : Jar) : Activity σ Unit := change fun world =>
  { world with jars := fun other => if other = name then jar else world.jars other }

/-- Takes the cookies for a URI from a jar. -/
def fetchCookies (name : JarName) (uri : Uri) : Activity σ (List Cookie) := do
  let current ← world
  let (cookies, jar) := (current.jars name).fetch uri current.date
  setJar name jar
  return cookies

/-- Writes cookies that came from a URI to a jar. -/
def storeCookies (name : JarName) (cookies : List Cookie) (source : Uri) : Activity σ Unit := do
  let current ← world
  setJar name ((current.jars name).update cookies source current.date)

/-- Counts one more hit. -/
def countHit (counter : Counter) : Activity σ Unit := change fun world =>
  { world with
    hits := fun other => if other = counter then world.hits other + 1 else world.hits other }

end Activity

end Switchboard
