import Mathlib.Data.List.Induction
import Switchboard.Cookie.Basic
/-!
The cookies that were written last to their slots.

Of cookies that are written one after the other, a later one takes the slot of an earlier one. What
is left are the cookies that are the last of their slot.

* `Cookie.IsLast` says that the cookie at a place is the last of its slot.
* `Cookie.lastWrites` lists these cookies in the order in which they were written
  (`Cookie.mem_lastWrites_iff`, `Cookie.pairwise_lastWrites`), no two of one slot
  (`Cookie.nodup_slots_lastWrites`).
* `Cookie.lastWrites_concat`: one more cookie goes to the end, and the one that had its slot goes.
-/

namespace Switchboard.Cookie

/-- The cookie at a place is the last one that was written to its slot. -/
def IsLast (writes : List Cookie) (place : Nat) (cookie : Cookie) : Prop :=
  writes[place]? = some cookie ∧
    ∀ later other, place < later → writes[later]? = some other → other.slot ≠ cookie.slot

/-- One cookie was written to its slot before another one was to its own, both of them for good. -/
def WrittenBefore (writes : List Cookie) (one other : Cookie) : Prop :=
  ∃ early late, early < late ∧ IsLast writes early one ∧ IsLast writes late other

/-- The cookies that are the last of their slot. -/
def lastWrites : List Cookie → List Cookie
  | [] => []
  | cookie :: later =>
    if later.any fun other => other.sameSlot cookie then lastWrites later
    else cookie :: lastWrites later

variable {writes : List Cookie} {one other cookie added : Cookie} {place : Nat}

theorem sameSlot_iff : one.sameSlot other = true ↔ one.slot = other.slot := by
  simp [sameSlot]

theorem sameSlot_comm (one other : Cookie) : one.sameSlot other = other.sameSlot one := by
  rw [Bool.eq_iff_iff, sameSlot_iff, sameSlot_iff, eq_comm]

/-! ### One more write -/

theorem lastWrites_concat (writes : List Cookie) (added : Cookie) :
    lastWrites (writes ++ [added])
      = (lastWrites writes).filter (fun other => !other.sameSlot added) ++ [added] := by
  induction writes with
  | nil => rfl
  | cons cookie later ih =>
    -- The added cookie is a later one too, so the first cookie stays only if neither takes its slot.
    have taken : (later ++ [added]).any (fun other => other.sameSlot cookie)
        = (later.any (fun other => other.sameSlot cookie) || cookie.sameSlot added) := by
      simp [sameSlot_comm added cookie]
    simp only [List.cons_append, lastWrites, taken, Bool.or_eq_true]
    by_cases again : later.any (fun other => other.sameSlot cookie) = true
    · rw [if_pos (Or.inl again), if_pos again, ih]
    · by_cases same : cookie.sameSlot added = true
      · rw [if_pos (Or.inr same), if_neg again, ih]
        simp [same]
      · have neither : ¬ (later.any (fun other => other.sameSlot cookie) = true ∨
            cookie.sameSlot added = true) := not_or.mpr ⟨again, same⟩
        rw [if_neg neither, if_neg again, ih]
        simp [same]

theorem IsLast.lt_length (last : IsLast writes place cookie) : place < writes.length :=
  (List.getElem?_eq_some_iff.mp last.1).1

/-- After one more write the last of their slots are what was written, and those that were the last
of another slot. -/
theorem isLast_concat_iff : IsLast (writes ++ [added]) place cookie ↔
    (place = writes.length ∧ cookie = added) ∨
      (IsLast writes place cookie ∧ added.slot ≠ cookie.slot) := by
  have atEnd : (writes ++ [added])[writes.length]? = some added := List.getElem?_concat_length
  constructor
  · rintro ⟨here, others⟩
    have within := (List.getElem?_eq_some_iff.mp here).1
    rw [List.length_append, List.length_singleton] at within
    by_cases isEnd : place = writes.length
    · rw [isEnd, atEnd] at here
      exact Or.inl ⟨isEnd, (Option.some.inj here).symm⟩
    · have earlier : place < writes.length := by omega
      rw [List.getElem?_append_left earlier] at here
      refine Or.inr ⟨⟨here, fun later other after isThere => ?_⟩, others _ _ earlier atEnd⟩
      have laterWithin := (List.getElem?_eq_some_iff.mp isThere).1
      refine others later other after ?_
      rw [List.getElem?_append_left laterWithin, isThere]
  · rintro (⟨rfl, rfl⟩ | ⟨last, differs⟩)
    · refine ⟨atEnd, fun later other after isThere => ?_⟩
      have within := (List.getElem?_eq_some_iff.mp isThere).1
      rw [List.length_append, List.length_singleton] at within
      omega
    · have earlier := last.lt_length
      refine ⟨by rw [List.getElem?_append_left earlier, last.1], ?_⟩
      intro later other after isThere
      have within := (List.getElem?_eq_some_iff.mp isThere).1
      rw [List.length_append, List.length_singleton] at within
      by_cases isEnd : later = writes.length
      · rw [isEnd, atEnd] at isThere
        rwa [← Option.some.inj isThere]
      · rw [List.getElem?_append_left (by omega)] at isThere
        exact last.2 later other after isThere

/-- What is written last of all is the last of its slot. -/
theorem isLast_concat (writes : List Cookie) (added : Cookie) :
    IsLast (writes ++ [added]) writes.length added :=
  isLast_concat_iff.mpr (Or.inl ⟨rfl, rfl⟩)

theorem WrittenBefore.concat (before : WrittenBefore writes one other)
    (freeOne : added.slot ≠ one.slot) (freeOther : added.slot ≠ other.slot) :
    WrittenBefore (writes ++ [added]) one other := by
  obtain ⟨early, late, ordered, lastOne, lastOther⟩ := before
  exact ⟨early, late, ordered, isLast_concat_iff.mpr (Or.inr ⟨lastOne, freeOne⟩),
    isLast_concat_iff.mpr (Or.inr ⟨lastOther, freeOther⟩)⟩

/-! ### All writes -/

/-- **Listed are the cookies that are the last of their slot.** -/
theorem mem_lastWrites_iff : cookie ∈ lastWrites writes ↔ ∃ place, IsLast writes place cookie := by
  induction writes using List.reverseRecOn with
  | nil => simp [lastWrites, IsLast]
  | append_singleton writes added ih =>
    rw [lastWrites_concat]
    simp only [List.mem_append, List.mem_filter, ih, List.mem_singleton, Bool.not_eq_true',
      ← Bool.not_eq_true, sameSlot_iff, isLast_concat_iff]
    constructor
    · rintro (⟨⟨place, last⟩, differs⟩ | rfl)
      · exact ⟨place, Or.inr ⟨last, fun same => differs same.symm⟩⟩
      · exact ⟨_, Or.inl ⟨rfl, rfl⟩⟩
    · rintro ⟨place, ⟨-, rfl⟩ | ⟨last, differs⟩⟩
      · exact Or.inr rfl
      · exact Or.inl ⟨⟨place, last⟩, fun same => differs same.symm⟩

/-- **They are listed in the order of their writes.** -/
theorem pairwise_lastWrites (writes : List Cookie) :
    (lastWrites writes).Pairwise (WrittenBefore writes) := by
  induction writes using List.reverseRecOn with
  | nil => exact List.Pairwise.nil
  | append_singleton writes added ih =>
    -- Those that stay keep their order, since the added cookie has none of their slots.
    have differs : ∀ other ∈ (lastWrites writes).filter (fun other => !other.sameSlot added),
        added.slot ≠ other.slot := by
      intro other member same
      have free := (List.mem_filter.mp member).2
      rw [sameSlot_iff.mpr same.symm] at free
      simp at free
    rw [lastWrites_concat, List.pairwise_append]
    refine ⟨?_, List.pairwise_singleton _ _, ?_⟩
    · refine (ih.filter _).imp_of_mem fun inOne inOther before => ?_
      exact before.concat (differs _ inOne) (differs _ inOther)
    · intro other member last isAdded
      rw [List.mem_singleton.mp isAdded]
      obtain ⟨place, isLast⟩ := mem_lastWrites_iff.mp (List.mem_filter.mp member).1
      exact ⟨place, writes.length, isLast.lt_length,
        isLast_concat_iff.mpr (Or.inr ⟨isLast, differs other member⟩),
        isLast_concat writes added⟩

/-- **No two of them have one slot.** -/
theorem nodup_slots_lastWrites (writes : List Cookie) : ((lastWrites writes).map slot).Nodup := by
  refine List.pairwise_map.mpr ((pairwise_lastWrites writes).imp ?_)
  rintro one other ⟨early, late, ordered, lastOne, lastOther⟩ same
  exact lastOne.2 late other ordered lastOther.1 same.symm

end Switchboard.Cookie
