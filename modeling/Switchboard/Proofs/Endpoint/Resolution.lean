import Mathlib.Data.List.Induction
import Switchboard.Endpoint.Basic
/-!
Who is found for a URI.

Endpoints are added to a registry and removed from it again, in any order and as often as one likes.
What stands in it then are the additions that no later removal undoes. A URI goes to the first of
them that gives it the greatest score above zero.

* `Match.Leads`: an endpoint is the first one with the greatest score.
* `Registry.find_eq_some_iff` and `Registry.find_eq_none_iff`: who is found, and when nobody is.
* `Registry.endpoints_after`: what stands in a registry after any changes.
* `Registry.resolution` is all of it.
-/

namespace Switchboard

variable {σ : Type}

/-! ### The first offer of the greatest score -/

namespace Registry

variable {best found : Match σ} {offers : List (Match σ)}

theorem bestFrom_append (best : Match σ) (front back : List (Match σ)) :
    bestFrom best (front ++ back) = bestFrom (bestFrom best front) back := by
  induction front generalizing best with
  | nil => rfl
  | cons first rest ih => exact ih _

/-- The best offer stays so if no later one has a greater score. -/
theorem bestFrom_of_le (least : ∀ offer ∈ offers, offer.score ≤ best.score) :
    bestFrom best offers = best := by
  induction offers with
  | nil => rfl
  | cons first rest ih =>
    obtain ⟨notHigher, others⟩ := List.forall_mem_cons.mp least
    rw [bestFrom, if_neg (Int.not_lt.mpr notHigher), ih others]

/-- **One pass over some offers** keeps the first one of the greatest score. -/
theorem bestFrom_leads (best : Match σ) (offers : List (Match σ)) :
    ∃ earlier later, best :: offers = earlier ++ bestFrom best offers :: later ∧
      (∀ offer ∈ earlier, offer.score < (bestFrom best offers).score) ∧
      ∀ offer ∈ later, offer.score ≤ (bestFrom best offers).score := by
  -- The last offer is the best one if its score is greater, and stands after the best otherwise.
  induction offers using List.reverseRecOn with
  | nil => exact ⟨[], [], rfl, List.forall_mem_nil _, List.forall_mem_nil _⟩
  | append_singleton offers last ih =>
    obtain ⟨earlier, later, parts, lower, notHigher⟩ := ih
    have step : bestFrom best (offers ++ [last])
        = if (bestFrom best offers).score < last.score then last else bestFrom best offers :=
      bestFrom_append best offers [last]
    rw [step, ← List.cons_append]
    by_cases greater : (bestFrom best offers).score < last.score
    · rw [if_pos greater]
      refine ⟨best :: offers, [], rfl, fun offer member => ?_, List.forall_mem_nil _⟩
      rw [parts] at member
      rcases List.mem_append.mp member with early | member
      · exact Int.lt_trans (lower offer early) greater
      · rcases List.mem_cons.mp member with rfl | late
        · exact greater
        · exact Int.lt_of_le_of_lt (notHigher offer late) greater
    · rw [if_neg greater]
      refine ⟨earlier, later ++ [last], by rw [parts]; simp, lower, fun offer member => ?_⟩
      rcases List.mem_append.mp member with late | isLast
      · exact notHigher offer late
      · obtain rfl := List.mem_singleton.mp isLast
        exact Int.not_lt.mp greater

/-- What stands first among those of the greatest score is the best offer. -/
theorem best?_of_leads {earlier later : List (Match σ)}
    (lower : ∀ offer ∈ earlier, offer.score < found.score)
    (notHigher : ∀ offer ∈ later, offer.score ≤ found.score) :
    best? (earlier ++ found :: later) = some found := by
  cases earlier with
  | nil => exact congrArg some (bestFrom_of_le notHigher)
  | cons first rest =>
    have before := lower _ (bestFrom_mem first rest)
    show some (bestFrom first (rest ++ found :: later)) = _
    rw [bestFrom_append, bestFrom, if_pos before, bestFrom_of_le notHigher]

/-- **The best offer** is the first one of the greatest score. -/
theorem best?_eq_some_iff : best? offers = some found ↔ ∃ earlier later,
    offers = earlier ++ found :: later ∧ (∀ offer ∈ earlier, offer.score < found.score) ∧
      ∀ offer ∈ later, offer.score ≤ found.score := by
  constructor
  · intro isBest
    cases offers with
    | nil => cases isBest
    | cons first rest =>
      cases isBest
      exact bestFrom_leads first rest
  · rintro ⟨earlier, later, rfl, lower, notHigher⟩
    exact best?_of_leads lower notHigher

end Registry

/-! ### Who is found -/

theorem Endpoint.offer?_eq_some_iff {endpoint : Endpoint σ} {uri : Uri} {found : Match σ} :
    endpoint.offer? uri = some found ↔
      found.endpoint = endpoint ∧ endpoint.score uri = some (found.score, found.uri) ∧
        0 < found.score := by
  constructor
  · intro offers
    refine ⟨endpoint_of_offer offers, ?_⟩
    unfold offer? at offers
    split at offers
    · rename_i score next scored
      split at offers
      · rename_i above
        cases offers
        exact ⟨scored, above⟩
      · cases offers
    · cases offers
  · rintro ⟨rfl, scored, above⟩
    simp only [offer?, scored, if_pos above]

/-- **Says that a match is the first one of the greatest score** among some endpoints: it is what one
of them gives the URI, above zero, those before it give lower scores or none, and those after it no
greater ones. -/
structure Match.Leads (found : Match σ) (endpoints : List (Endpoint σ)) (uri : Uri) : Prop where
  scored : found.endpoint.score uri = some (found.score, found.uri)
  above : 0 < found.score
  first : ∃ earlier later, endpoints = earlier ++ found.endpoint :: later ∧
    (∀ other ∈ earlier, ∀ given ∈ other.score uri, given.1 < found.score) ∧
    ∀ other ∈ later, ∀ given ∈ other.score uri, given.1 ≤ found.score

namespace Registry

variable {registry : Registry σ} {uri : Uri} {found : Match σ}

/-- What holds of all scores up to zero holds of all scores if it holds of those of offers. -/
theorem forall_offers_iff {holds : Int → Prop} (upToZero : ∀ score, score ≤ 0 → holds score)
    (endpoints : List (Endpoint σ)) (uri : Uri) :
    (∀ offer ∈ endpoints.filterMap (·.offer? uri), holds offer.score) ↔
      ∀ endpoint ∈ endpoints, ∀ given ∈ endpoint.score uri, holds given.1 := by
  constructor
  · rintro all endpoint member ⟨score, next⟩ scored
    by_cases above : 0 < score
    · have offers : endpoint.offer? uri = some { endpoint, uri := next, score } :=
        Endpoint.offer?_eq_some_iff.mpr ⟨rfl, scored, above⟩
      exact all _ (List.mem_filterMap.mpr ⟨endpoint, member, offers⟩)
    · exact upToZero score (Int.not_lt.mp above)
  · intro all offer member
    obtain ⟨endpoint, isEndpoint, offers⟩ := List.mem_filterMap.mp member
    exact all endpoint isEndpoint _ (Endpoint.offer?_eq_some_iff.mp offers).2.1

/-- **Who is found** is the first endpoint that gives the greatest score, with what it gives. -/
theorem find_eq_some_iff : registry.find uri = some found ↔ found.Leads registry.endpoints uri := by
  constructor
  · intro finds
    obtain ⟨earlier, later, parts, lower, notHigher⟩ := best?_eq_some_iff.mp finds
    obtain ⟨before, back, endpoints, isEarlier, rest⟩ := List.filterMap_eq_append_iff.mp parts
    obtain ⟨silent, endpoint, after, isBack, noOffers, offers, isLater⟩ :=
      List.filterMap_eq_cons_iff.mp rest
    obtain ⟨rfl, scored, above⟩ := Endpoint.offer?_eq_some_iff.mp offers
    refine ⟨scored, above, before ++ silent, after, by rw [endpoints, isBack]; simp, ?_, ?_⟩
    · have allEarlier : (before ++ silent).filterMap (·.offer? uri) = earlier := by
        rw [List.filterMap_append, isEarlier, List.filterMap_eq_nil_iff.mpr noOffers,
          List.append_nil]
      rw [← allEarlier] at lower
      exact (forall_offers_iff (fun _ low => Int.lt_of_le_of_lt low above) _ uri).mp lower
    · rw [← isLater] at notHigher
      exact (forall_offers_iff (fun _ low => Int.le_trans low (Int.le_of_lt above)) _ uri).mp
        notHigher
  · rintro ⟨scored, above, earlier, later, endpoints, lower, notHigher⟩
    have offers := Endpoint.offer?_eq_some_iff.mpr ⟨rfl, scored, above⟩
    rw [find, endpoints, List.filterMap_append, List.filterMap_cons, offers]
    exact best?_of_leads
      ((forall_offers_iff (fun _ low => Int.lt_of_le_of_lt low above) _ uri).mpr lower)
      ((forall_offers_iff (fun _ low => Int.le_trans low (Int.le_of_lt above)) _ uri).mpr notHigher)

/-- **Nobody is found** just if no endpoint gives a score above zero. -/
theorem find_eq_none_iff : registry.find uri = none ↔
    ∀ endpoint ∈ registry.endpoints, ∀ given ∈ endpoint.score uri, given.1 ≤ 0 := by
  have silent : registry.find uri = none ↔ registry.endpoints.filterMap (·.offer? uri) = [] := by
    unfold find
    cases registry.endpoints.filterMap (·.offer? uri) with
    | nil => exact ⟨fun _ => rfl, fun _ => rfl⟩
    | cons first rest => exact ⟨(nomatch ·), (nomatch ·)⟩
  rw [silent, ← forall_offers_iff (fun _ low => low), List.eq_nil_iff_forall_not_mem]
  refine forall_congr' fun offer => ⟨fun absent member => absurd member absent, fun low member => ?_⟩
  obtain ⟨endpoint, -, offers⟩ := List.mem_filterMap.mp member
  exact absurd (low member) (Int.not_le.mpr (Endpoint.offer?_eq_some_iff.mp offers).2.2)

/-! ### Changes -/

/-- **What is left when an endpoint is removed**, and what is answered: no addition of it stays, all
others do in their order, and the answer is whether there was one. -/
theorem withdraw_spec (registry : Registry σ) (key : Nat) :
    (registry.withdraw key).1.endpoints
        = registry.endpoints.filter (fun endpoint => endpoint.key ≠ key) ∧
      ((registry.withdraw key).2 = true ↔ ∃ endpoint ∈ registry.endpoints, endpoint.key = key) := by
  have kept : (registry.remove key).endpoints
      = registry.endpoints.filter fun endpoint => endpoint.key ≠ key := by
    refine List.filter_congr fun endpoint _ => ?_
    rw [Bool.eq_iff_iff, bne_iff_ne, decide_eq_true_iff]
  refine ⟨kept, ?_⟩
  show ((registry.remove key).endpoints.length != registry.endpoints.length) = true ↔ _
  rw [kept, bne_iff_ne, Ne, List.length_filter_eq_length_iff]
  simp

/-- A change of a registry. -/
inductive Change (σ : Type) where
  | add (endpoint : Endpoint σ)
  | remove (key : Nat)

/-- Says whether a change removes an endpoint. -/
def Change.removes (key : Nat) : Change σ → Bool
  | .add _ => false
  | .remove other => decide (key = other)

/-- A registry with one more change. -/
def amend (registry : Registry σ) : Change σ → Registry σ
  | .add endpoint => registry.add endpoint
  | .remove key => (registry.withdraw key).1

/-- The registry that some changes make, one after the other. -/
def after (changes : List (Change σ)) : Registry σ := changes.foldl amend empty

/-- The endpoints that were added and not removed later, in the order of their additions. -/
def standing : List (Change σ) → List (Endpoint σ)
  | [] => []
  | .add endpoint :: rest =>
    if rest.any (Change.removes endpoint.key) then standing rest else endpoint :: standing rest
  | .remove _ :: rest => standing rest

/-- Changes leave what they do not remove, and what they add stands after it. -/
theorem endpoints_foldl_amend (registry : Registry σ) (changes : List (Change σ)) :
    (changes.foldl amend registry).endpoints
      = registry.endpoints.filter (fun endpoint => !changes.any (Change.removes endpoint.key))
        ++ standing changes := by
  induction changes generalizing registry with
  | nil => exact ((List.append_nil _).trans (List.filter_eq_self.mpr fun _ _ => rfl)).symm
  | cons change rest ih =>
    rw [List.foldl_cons, ih]
    cases change with
    | add endpoint =>
      show (registry.endpoints ++ [endpoint]).filter _ ++ _ = _
      by_cases undone : rest.any (Change.removes endpoint.key) = true
      · simp [standing, undone, Change.removes]
      · simp [standing, undone, Change.removes]
    | remove key =>
      rw [amend, (withdraw_spec registry key).1, List.filter_filter]
      simp [standing, Change.removes, Bool.and_comm]

/-- **What stands in a registry** are the additions that no later removal undoes. -/
theorem endpoints_after (changes : List (Change σ)) :
    (after changes).endpoints = standing changes :=
  endpoints_foldl_amend empty changes

/-- **After any changes** a URI goes to the first endpoint that stands and gives the greatest score
above zero, and to nobody just if there is none; and a removal takes away one endpoint as often as it
stands, leaves the others in their order, and tells whether it stood. -/
theorem resolution (changes : List (Change σ)) :
    (after changes).endpoints = standing changes ∧
    (∀ uri found, (after changes).find uri = some found ↔ found.Leads (standing changes) uri) ∧
    (∀ uri, (after changes).find uri = none ↔
      ∀ endpoint ∈ standing changes, ∀ given ∈ endpoint.score uri, given.1 ≤ 0) ∧
    ∀ key, ((after changes).withdraw key).1.endpoints
        = (standing changes).filter (fun endpoint => endpoint.key ≠ key) ∧
      (((after changes).withdraw key).2 = true ↔
        ∃ endpoint ∈ standing changes, endpoint.key = key) := by
  have stands := endpoints_after changes
  refine ⟨stands, fun uri found => ?_, fun uri => ?_, fun key => ?_⟩
  · rw [find_eq_some_iff, stands]
  · rw [find_eq_none_iff, stands]
  · rw [← stands]
    exact withdraw_spec _ key

end Registry

end Switchboard
