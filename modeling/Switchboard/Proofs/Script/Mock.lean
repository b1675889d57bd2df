import Switchboard.Proofs.Activity.Alike
import Switchboard.Proofs.Activity.Clock
import Switchboard.Exchange
import Switchboard.Script.Endpoint
/-!
Scripted endpoints as endpoints.

* `Script.mockAnswer_timely`: a scripted endpoint keeps to the clock, whatever its script says.
* `Script.mockAnswer_alike`: one that does not echo requests answers by the number of the call. What
  it is handed goes to its log and nowhere else.
-/

namespace Switchboard.Script

/-! ### Time -/

theorem leaveMark_still (mark : Json) : (leaveMark mark).Still := fun _ _ => rfl

theorem countCall_still (key : Nat) : (countCall key).Still := fun _ _ => rfl

theorem pause_timely (length : Option Nat) : (pause? length).Timely := by
  cases length with
  | none => exact .of_still (.pure _)
  | some length => exact .wait _

/-- What is done for an entry leaves the world as it is. -/
theorem perform_world (number : Nat) (request : Message) (action : Action) (scope : Scope)
    (world : World Trace) : (perform number request action scope world).2 = world := by
  cases action with
  | breaks panic => rfl
  | fails fault => rfl
  | echoes => rfl
  | replies message location => cases location <;> rfl

/-- **A scripted endpoint keeps to the clock.** -/
theorem mockAnswer_timely (name : String) (key : Nat) (entries : List Entry)
    (plug : Plug Trace) (verb : Verb) (uri : Uri) (request : Message) (limit : Span) :
    (mockAnswer name key entries plug verb uri request limit).Timely := by
  unfold mockAnswer
  refine .bind (.of_still .world) fun world => ?_
  refine .bind (.of_still (leaveMark_still _)) fun _ => ?_
  refine .bind (.of_still (countCall_still key)) fun number => ?_
  refine .bind (pause_timely _) fun _ => ?_
  exact .of_still fun scope world =>
    congrArg World.now (perform_world number request _ scope world)

/-! ### Requests -/

theorem leaveMark_alike (mark mark' : Json) :
    Activity.Alike Trace.calls (leaveMark mark) (leaveMark mark') :=
  .change fun _ _ same => same

theorem countCall_alike (key : Nat) :
    Activity.Alike Trace.calls (countCall key) (countCall key) := by
  refine .world_bind fun world world' same => ?_
  obtain ⟨_, _, _, _, calls⟩ := World.view_eq_iff.mp same
  simp only [calls]
  refine .bind (.change fun world world' same => ?_) fun _ => .pure _
  obtain ⟨now, date, jars, hits, before⟩ := World.view_eq_iff.mp same
  exact World.view_eq_iff.mpr ⟨now, date, jars, hits, congrArg (List.cons _) before⟩

theorem pause_alike (length : Option Nat) :
    Activity.Alike Trace.calls (pause? length) (pause? length) := by
  cases length with
  | none => exact .pure ()
  | some length => exact .wait _

/-- What is done for an entry that does not echo does not depend on the request. -/
theorem perform_alike (number : Nat) (request request' : Message) {action : Action}
    (silent : action ≠ .echoes) :
    Activity.Alike Trace.calls (perform number request action) (perform number request' action) := by
  cases action with
  | breaks panic => exact .breakOff panic
  | fails fault => exact .pure _
  | echoes => exact absurd rfl silent
  | replies message location =>
    cases location with
    | none => exact .pure _
    | some location => exact .pure _

theorem entryAt_ne_echoes {entries : List Entry}
    (silent : ∀ entry ∈ entries, entry.action ≠ .echoes) (number : Nat) :
    (entryAt entries number).action ≠ .echoes := by
  unfold entryAt
  cases found : entries[min number (entries.length - 1)]? with
  | none => exact Action.noConfusion
  | some entry => exact silent entry (List.mem_of_getElem? found)

/-- **A scripted endpoint that does not echo** answers by the number of the call. -/
theorem mockAnswer_alike (name : String) (key : Nat) {entries : List Entry}
    (silent : ∀ entry ∈ entries, entry.action ≠ .echoes) (plug plug' : Plug Trace) (verb : Verb)
    (uri : Uri) (request request' : Message) (limit : Span) :
    Activity.Alike Trace.calls (mockAnswer name key entries plug verb uri request limit)
      (mockAnswer name key entries plug' verb uri request' limit) := by
  unfold mockAnswer
  refine .world_bind fun world world' _ => ?_
  refine .bind (leaveMark_alike _ _) fun _ => ?_
  refine .bind (countCall_alike key) fun number => ?_
  refine .bind (pause_alike _) fun _ => ?_
  exact perform_alike number request request' (entryAt_ne_echoes silent number)

/-! ### Calls -/

/-- Calls to a single endpoint with a script. -/
def mockExchange (name : String) (entries : List Entry) : Exchange Trace :=
  { registry := ⟨[{ key := 0, name, score := mockScore .null
                    delivery := .answers (mockAnswer name 0 entries) }]⟩
    jar := .shared, settings := .standard }

end Switchboard.Script
