import Mathlib.Order.Defs.Unbundled
import Switchboard.Proofs.Activity.Clock
/-!
What activities leave as it is.

A frame relates the worlds before to those after: it tells what may become of a world, in one step
or in many, whatever the clock does. An activity keeps a frame if every world that it leaves is
related to the one that it began in, also when it breaks off or is cut off.

* `Activity.Keeps.bind`: a sequence keeps a frame if its parts do.
* `Activity.Keeps.attempt` and `Activity.Keeps.within`: so does an activity with a deadline of its
  own, or taken to where it breaks off.
-/

namespace Switchboard

variable {σ α β : Type}

/-- **A frame**: what may become of a world, whatever the clock does. -/
class World.Frame (related : World σ → World σ → Prop) : Prop
    extends IsPreorder (World σ) related where
  tick : ∀ world moment, related world { world with now := moment }

namespace Activity

variable {related : World σ → World σ → Prop}

/-- An activity leaves worlds that are related to those that it began in. -/
def Keeps (related : World σ → World σ → Prop) (act : Activity σ α) : Prop :=
  ∀ scope world, related world (act scope world).2

variable [frame : World.Frame related]

/-- What leaves every world alone keeps every frame. -/
theorem Keeps.of_world_eq {act : Activity σ α} (same : ∀ scope world, (act scope world).2 = world) :
    act.Keeps related := by
  intro scope world
  rw [same]
  exact refl_of related world

theorem Keeps.pure (value : α) : (Pure.pure value : Activity σ α).Keeps related :=
  .of_world_eq fun _ _ => rfl

theorem Keeps.breakOff (panic : Panic) : (breakOff panic : Activity σ α).Keeps related :=
  .of_world_eq fun _ _ => rfl

theorem Keeps.spin : (spin : Activity σ α).Keeps related :=
  .of_world_eq fun _ _ => rfl

theorem Keeps.world : (Activity.world : Activity σ (World σ)).Keeps related :=
  .of_world_eq fun _ _ => rfl

theorem Keeps.ambient : (Activity.ambient : Activity σ (Option JarName)).Keeps related :=
  .of_world_eq fun _ _ => rfl

theorem Keeps.wait (length : Span) : (Activity.wait length : Activity σ Unit).Keeps related := by
  intro scope world
  unfold Activity.wait
  cases scope.deadline with
  | none => exact frame.tick world (world.now + length)
  | some deadline =>
    simp only
    split
    · exact frame.tick world (world.now + length)
    · exact frame.tick world deadline

/-- **A sequence keeps a frame if its parts do.** -/
theorem Keeps.bind {first : Activity σ α} {next : α → Activity σ β} (keeps : first.Keeps related)
    (later : ∀ value, (next value).Keeps related) : (first >>= next).Keeps related := by
  intro scope world
  by_cases done : ∃ value, (first scope world).1 = .done value
  · obtain ⟨value, done⟩ := done
    rw [bind_of_done done]
    exact trans_of related (keeps scope world) (later value scope (first scope world).2)
  · rw [(bind_of_not_done (not_exists.mp done)).1]
    exact keeps scope world

omit frame in
theorem Keeps.attempt {act : Activity σ α} (keeps : act.Keeps related) :
    act.attempt.Keeps related := by
  intro scope world
  rw [attempt_world]
  exact keeps scope world

omit frame in
theorem Keeps.within {act : Activity σ α} (keeps : act.Keeps related) (limit : Span) :
    (Activity.within limit act).Keeps related := by
  intro scope world
  rw [within_world]
  exact keeps (limited limit scope world) world

end Activity

end Switchboard
