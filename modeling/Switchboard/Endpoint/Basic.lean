import Switchboard.Plug.Basic
import Switchboard.Plug.Fault
/-!
Endpoints: who serves a URI.

An endpoint tells by a score how well it serves a URI, and which URI the call then goes to; it does
not serve what it gives no score or none above zero. It either answers itself or hands the call on
to whoever serves the new URI.

A registry holds endpoints in the order in which they were added. The call goes to the first one
with the greatest score.

* `Registry.find` finds the endpoint of a URI.
* `Registry.route` follows those that hand on to the one that answers. It has no value for a call
  that is handed on for ever.
* `Registry.deliver` has a call answered. Nothing waits while a call is handed on.
-/

namespace Switchboard

/-- What answers a call: to a plug, a verb, a URI and a request, within some time. -/
abbrev Answerer (σ : Type) :=
  Plug σ → Verb → Uri → Message → Span → Activity σ (Except CallFault Message)

/-- What an endpoint does with a call. -/
inductive Delivery (σ : Type) where
  | answers (answer : Answerer σ)
  /-- The call goes to whoever serves the URI that the endpoint made. -/
  | handsOn

/-- A party that serves URIs. -/
structure Endpoint (σ : Type) where
  /-- The number that tells endpoints apart. -/
  key : Nat
  name : String
  /-- The score of a URI and the URI that the call goes to. -/
  score : Uri → Option (Int × Uri)
  delivery : Delivery σ

/-- Endpoints in the order in which they were added. -/
structure Registry (σ : Type) where
  endpoints : List (Endpoint σ)

/-- The endpoint that was found for a URI. -/
structure Match (σ : Type) where
  endpoint : Endpoint σ
  uri : Uri
  score : Int

variable {σ : Type}

namespace Endpoint

/-- The score of an endpoint for the scheme that it serves. -/
def schemeScore : Int := 1

/-- The score that no other one exceeds. -/
def forcedScore : Int := 2147483647

/-- What an endpoint offers for a URI that it serves. -/
def offer? (endpoint : Endpoint σ) (uri : Uri) : Option (Match σ) :=
  match endpoint.score uri with
  | some (score, uri) => if 0 < score then some { endpoint, uri, score } else none
  | none => none

end Endpoint

/-- A description of what was found. -/
def Match.text (found : Match σ) : String :=
  Text.Quoted.record "EndpointMatch"
    [("endpoint", Text.Quoted.quote found.endpoint.name),
      ("uri", Text.Quoted.quote found.uri.text), ("score", Text.decimalInt found.score)] false

/-- An offer is made by the endpoint itself. -/
theorem Endpoint.endpoint_of_offer {endpoint : Endpoint σ} {uri : Uri} {found : Match σ}
    (offers : endpoint.offer? uri = some found) : found.endpoint = endpoint := by
  unfold offer? at offers
  split at offers
  · split at offers
    · cases offers
      rfl
    · cases offers
  · cases offers

namespace Registry

/-- No endpoints. -/
def empty : Registry σ := ⟨[]⟩

/-- Adds an endpoint after the others. -/
def add (registry : Registry σ) (endpoint : Endpoint σ) : Registry σ :=
  ⟨registry.endpoints ++ [endpoint]⟩

/-- Removes an endpoint as often as it was added. -/
def remove (registry : Registry σ) (key : Nat) : Registry σ :=
  ⟨registry.endpoints.filter fun endpoint => endpoint.key != key⟩

/-- Removes an endpoint as often as it was added, and says whether fewer endpoints are left. -/
def withdraw (registry : Registry σ) (key : Nat) : Registry σ × Bool :=
  let kept := registry.remove key
  (kept, kept.endpoints.length != registry.endpoints.length)

/-- A description of a registry. -/
def text (registry : Registry σ) : String :=
  Text.Quoted.bracket (registry.endpoints.map fun endpoint => Text.Quoted.quote endpoint.name)

/-! ### Finding -/

/-- The first offer of the greatest score, where `best` comes before all of them. -/
def bestFrom (best : Match σ) : List (Match σ) → Match σ
  | [] => best
  | found :: rest => bestFrom (if best.score < found.score then found else best) rest

/-- The first offer of the greatest score. -/
def best? : List (Match σ) → Option (Match σ)
  | [] => none
  | found :: rest => some (bestFrom found rest)

/-- The endpoint that serves a URI. -/
def find (registry : Registry σ) (uri : Uri) : Option (Match σ) :=
  best? (registry.endpoints.filterMap fun endpoint => endpoint.offer? uri)

theorem bestFrom_mem (best : Match σ) (offers : List (Match σ)) :
    bestFrom best offers ∈ best :: offers := by
  induction offers generalizing best with
  | nil => exact List.mem_singleton.mpr rfl
  | cons found rest ih =>
    have member := ih (if best.score < found.score then found else best)
    rcases List.mem_cons.mp member with same | later
    · unfold bestFrom
      rw [same]
      split <;> simp
    · exact List.mem_cons_of_mem _ (List.mem_cons_of_mem _ later)

/-- What is found is an offer of an endpoint of the registry. -/
theorem exists_offer_of_find {registry : Registry σ} {uri : Uri} {found : Match σ}
    (finds : registry.find uri = some found) :
    ∃ endpoint ∈ registry.endpoints, endpoint.offer? uri = some found := by
  unfold find at finds
  cases offers : registry.endpoints.filterMap fun endpoint => endpoint.offer? uri with
  | nil =>
    rw [offers] at finds
    cases finds
  | cons first rest =>
    rw [offers] at finds
    cases finds
    have member := bestFrom_mem first rest
    rw [← offers] at member
    exact List.mem_filterMap.mp member

/-- Who is found belongs to the registry. -/
theorem endpoint_mem_of_find {registry : Registry σ} {uri : Uri} {found : Match σ}
    (finds : registry.find uri = some found) : found.endpoint ∈ registry.endpoints := by
  obtain ⟨endpoint, member, offers⟩ := exists_offer_of_find finds
  rwa [Endpoint.endpoint_of_offer offers]

/-! ### Delivering -/

/-- Where a call ends up. -/
inductive Route (σ : Type) where
  /-- An endpoint answers for a URI. -/
  | answered (answer : Answerer σ) (uri : Uri)
  /-- Nobody serves the URI that the call was handed on for. -/
  | lost (uri : Uri)

/-- Where a call ends up that is handed on for a URI. -/
def onward (registry : Registry σ) (uri : Uri) : Option (Route σ) :=
  match registry.find uri with
  | none => some (.lost uri)
  | some next =>
    match next.endpoint.delivery with
    | .answers answer => some (.answered answer next.uri)
    | .handsOn => registry |>.onward next.uri
partial_fixpoint

/-- Where a call to an endpoint ends up. -/
def route (registry : Registry σ) (found : Match σ) : Option (Route σ) :=
  match found.endpoint.delivery with
  | .answers answer => some (.answered answer found.uri)
  | .handsOn => registry.onward found.uri

/-- A call that is handed on goes to whoever is found for the URI. -/
theorem onward_eq (registry : Registry σ) (uri : Uri) : registry.onward uri
    = match registry.find uri with
      | none => some (.lost uri)
      | some next => registry.route next := by
  rw [onward.eq_1]
  rfl

/-- A call to an endpoint that answers ends up there. -/
theorem route_of_answers {registry : Registry σ} {found : Match σ} {answer : Answerer σ}
    (answers : found.endpoint.delivery = .answers answer) :
    registry.route found = some (.answered answer found.uri) := by
  unfold route
  rw [answers]

theorem route_of_handsOn {registry : Registry σ} {found : Match σ}
    (hands : found.endpoint.delivery = .handsOn) :
    registry.route found = registry.onward found.uri := by
  unfold route
  rw [hands]

/-- Whoever answers a call that was handed on belongs to the registry. -/
theorem exists_endpoint_of_onward {registry : Registry σ} {uri served : Uri}
    {answer : Answerer σ} (ends : registry.onward uri = some (.answered answer served)) :
    ∃ endpoint ∈ registry.endpoints, endpoint.delivery = .answers answer := by
  refine onward.partial_correctness registry (motive := fun _ route =>
    route = .answered answer served →
      ∃ endpoint ∈ registry.endpoints, endpoint.delivery = .answers answer)
    ?_ uri _ ends rfl
  intro onward later uri route ends isAnswer
  subst isAnswer
  cases finds : registry.find uri with
  | none =>
    rw [finds] at ends
    cases ends
  | some next =>
    simp only [finds] at ends
    cases delivers : next.endpoint.delivery with
    | answers own =>
      simp only [delivers] at ends
      cases ends
      exact ⟨next.endpoint, endpoint_mem_of_find finds, delivers⟩
    | handsOn =>
      simp only [delivers] at ends
      exact later next.uri _ ends rfl

/-- Whoever answers a call to what was found belongs to the registry. -/
theorem exists_endpoint_of_route {registry : Registry σ} {uri served : Uri} {found : Match σ}
    {answer : Answerer σ} (finds : registry.find uri = some found)
    (routed : registry.route found = some (.answered answer served)) :
    ∃ endpoint ∈ registry.endpoints, endpoint.delivery = .answers answer := by
  have onwards : registry.onward uri = some (.answered answer served) := by
    rw [onward_eq, finds]
    exact routed
  exact exists_endpoint_of_onward onwards

/-- Has a call to an endpoint answered. -/
def deliver (registry : Registry σ) (found : Match σ) (plug : Plug σ) (verb : Verb)
    (request : Message) (timeout : Span) : Activity σ (Except CallFault Message) :=
  match registry.route found with
  | some (.answered answer uri) => answer plug verb uri request timeout
  | some (.lost uri) => return .error (.connection ("no endpoint serves " ++ uri.text))
  | none => Activity.spin

end Registry

end Switchboard
