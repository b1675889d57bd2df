import Mathlib.Logic.Relation
import Switchboard.Exchange
import Switchboard.Proofs.Endpoint.Resolution
import Switchboard.Proofs.Uri.Schemes
/-!
Where calls go that endpoints hand on.

An endpoint that puts one scheme in the place of another hands a call on to whoever serves the new
URI, and that may be such an endpoint too. What a call comes to is decided by the schemes alone: it
comes to an end if no scheme leads back to itself, and if one does, there is a registry in which a
call goes on for ever.

* `Registry.Leads` says where a call ends up, and after how many times of being handed on.
* `Registry.route_eq_some_iff`: that is where the registry follows it to.
* `Registry.leads_of_acyclic`: no call is handed on more often than there are swaps.
* `Registry.exists_endless`: schemes that lead back to themselves make a call go on for ever.
* `Registry.settles_iff_acyclic` is both.
-/

namespace Switchboard

open Relation (TransGen ReflTransGen)

variable {σ : Type}

namespace Registry

variable {registry : Registry σ} {uri : Uri} {found : Match σ} {route : Route σ} {steps : Nat}

/-! ### Where a call ends up -/

/-- **Says where a call to an endpoint ends up**, and how often it is handed on before. -/
inductive Leads (registry : Registry σ) : Match σ → Route σ → Nat → Prop where
  | answered {found : Match σ} {answer : Answerer σ} :
      found.endpoint.delivery = .answers answer →
      Leads registry found (.answered answer found.uri) 0
  | lost {found : Match σ} :
      found.endpoint.delivery = .handsOn → registry.find found.uri = none →
      Leads registry found (.lost found.uri) 0
  | onward {found next : Match σ} {route : Route σ} {steps : Nat} :
      found.endpoint.delivery = .handsOn → registry.find found.uri = some next →
      Leads registry next route steps → Leads registry found route (steps + 1)

/-- A call that ends up somewhere is followed there. -/
theorem Leads.route_eq (leads : registry.Leads found route steps) :
    registry.route found = some route := by
  induction leads with
  | answered delivers => exact route_of_answers delivers
  | lost hands finds => rw [route_of_handsOn hands, onward_eq, finds]
  | onward hands finds rest ih =>
    rw [route_of_handsOn hands, onward_eq, finds]
    exact ih

/-- What the registry comes to for a URI is where a call ends up. -/
theorem leads_of_onward (ends : registry.onward uri = some route) :
    (registry.find uri = none ∧ route = .lost uri) ∨
      ∃ next steps, registry.find uri = some next ∧ registry.Leads next route steps := by
  refine onward.partial_correctness registry (motive := fun uri route =>
    (registry.find uri = none ∧ route = .lost uri) ∨
      ∃ next steps, registry.find uri = some next ∧ registry.Leads next route steps)
    ?_ uri route ends
  intro onward later uri route ends
  cases finds : registry.find uri with
  | none =>
    rw [finds] at ends
    cases ends
    exact Or.inl ⟨rfl, rfl⟩
  | some next =>
    simp only [finds] at ends
    cases delivers : next.endpoint.delivery with
    | answers answer =>
      simp only [delivers] at ends
      cases ends
      exact Or.inr ⟨next, 0, rfl, .answered delivers⟩
    | handsOn =>
      simp only [delivers] at ends
      rcases later next.uri route ends with ⟨nobody, rfl⟩ | ⟨after, steps, finds', leads⟩
      · exact Or.inr ⟨next, 0, rfl, .lost delivers nobody⟩
      · exact Or.inr ⟨next, steps + 1, rfl, .onward delivers finds' leads⟩

/-- **Where the registry follows a call to** is where it ends up. -/
theorem route_eq_some_iff :
    registry.route found = some route ↔ ∃ steps, registry.Leads found route steps := by
  constructor
  · intro follows
    cases delivers : found.endpoint.delivery with
    | answers answer =>
      rw [route_of_answers delivers] at follows
      cases follows
      exact ⟨0, .answered delivers⟩
    | handsOn =>
      rw [route_of_handsOn delivers] at follows
      rcases leads_of_onward follows with ⟨nobody, rfl⟩ | ⟨next, steps, finds, leads⟩
      · exact ⟨0, .lost delivers nobody⟩
      · exact ⟨steps + 1, .onward delivers finds leads⟩
  · rintro ⟨steps, leads⟩
    exact leads.route_eq

/-- **A call that the registry never stops following** is one that ends up nowhere. -/
theorem route_eq_none_iff :
    registry.route found = none ↔ ∀ route steps, ¬ registry.Leads found route steps := by
  rw [Option.eq_none_iff_forall_ne_some]
  constructor
  · exact fun never route steps leads => never route leads.route_eq
  · intro nowhere route follows
    obtain ⟨steps, leads⟩ := route_eq_some_iff.mp follows
    exact nowhere route steps leads

/-- A call that is always handed on ends up nowhere. -/
theorem not_leads_of_closed (holds : Match σ → Prop)
    (closed : ∀ found, holds found → found.endpoint.delivery = .handsOn ∧
      ∃ next, registry.find found.uri = some next ∧ holds next) (start : holds found) :
    ¬ registry.Leads found route steps := by
  intro leads
  induction leads with
  | answered delivers =>
    have hands := (closed _ start).1
    rw [delivers] at hands
    cases hands
  | lost hands finds =>
    obtain ⟨next, finds', -⟩ := (closed _ start).2
    rw [finds] at finds'
    cases finds'
  | onward hands finds rest ih =>
    obtain ⟨next, finds', again⟩ := (closed _ start).2
    obtain rfl := Option.some.inj (finds.symm.trans finds')
    exact ih again

end Registry

/-! ### Swaps -/

/-- What puts one scheme in the place of another. -/
structure Swap where
  key : Nat
  source : String
  target : String

namespace Swap

variable {swap : Swap} {uri : Uri} {found : Match σ} {scheme next : String}

/-- The endpoint for a swap. -/
def endpoint (swap : Swap) : Endpoint σ := Endpoint.schemeSwap swap.key swap.source swap.target

/-- **Says that a swap turns URIs of one scheme** into URIs of another one. -/
structure Turns (swap : Swap) (scheme next : String) : Prop where
  differs : Text.lower swap.source ≠ Text.lower swap.target
  source : Text.lower scheme = Text.lower swap.source
  target : Uri.schemeOf? (Text.lower swap.target) = some next

/-- What a swap offers for a URI. -/
theorem offer?_eq (swap : Swap) (uri : Uri) : (swap.endpoint : Endpoint σ).offer? uri
    = if Text.lower swap.source = Text.lower swap.target ∨
          Text.lower uri.scheme ≠ Text.lower swap.source then none
      else (Endpoint.rescheme (Text.lower swap.target) uri).map fun uri =>
        { endpoint := swap.endpoint, uri, score := Endpoint.forcedScore } := by
  have serves : (!Text.sameName uri.scheme (Text.lower swap.source)) = true ↔
      Text.lower uri.scheme ≠ Text.lower swap.source := by
    rw [Bool.not_eq_true', ← Bool.not_eq_true, Text.sameName_iff, Text.lower_lower]
  have scored : (swap.endpoint : Endpoint σ).score uri
      = if Text.lower swap.source = Text.lower swap.target ∨
            Text.lower uri.scheme ≠ Text.lower swap.source then none
        else (Endpoint.rescheme (Text.lower swap.target) uri).map
          fun uri => (Endpoint.forcedScore, uri) := by
    show Endpoint.swapScore (Text.lower swap.source) (Text.lower swap.target) uri = _
    unfold Endpoint.swapScore
    simp only [serves]
  unfold Endpoint.offer?
  rw [scored]
  by_cases refuses : Text.lower swap.source = Text.lower swap.target ∨
      Text.lower uri.scheme ≠ Text.lower swap.source
  · rw [if_pos refuses, if_pos refuses]
  · rw [if_neg refuses, if_neg refuses]
    cases Endpoint.rescheme (Text.lower swap.target) uri with
    | none => rfl
    | some next => rfl

/-- What a swap offers has the scheme that it turns a URI into, and the greatest score. -/
theorem turns_of_offer (offers : (swap.endpoint : Endpoint σ).offer? uri = some found) :
    swap.Turns uri.scheme found.uri.scheme ∧ found.score = Endpoint.forcedScore := by
  rw [offer?_eq] at offers
  split at offers
  · cases offers
  · rename_i serves
    rw [not_or, not_not] at serves
    obtain ⟨next, puts, rfl⟩ := Option.map_eq_some_iff.mp offers
    exact ⟨⟨serves.1, serves.2, Uri.schemeOf?_of_rescheme puts⟩, rfl⟩

/-- A swap to a scheme turns the URI of any scheme that has one. -/
theorem offer?_home (valid : Uri.isScheme swap.target = true) (turns : swap.Turns scheme next) :
    swap.endpoint.offer? (Uri.home scheme)
      = some { endpoint := (swap.endpoint : Endpoint σ), uri := Uri.home next
               score := Endpoint.forcedScore } := by
  have small : Uri.isScheme (Text.lower swap.target) = true := by rwa [Uri.isScheme_lower]
  have puts := Uri.rescheme_home small scheme
  have same : Text.lower (Text.lower swap.target) = next := by
    have into := Uri.schemeOf?_of_rescheme puts
    rw [turns.target] at into
    exact (Option.some.inj into).symm
  have serves : ¬ (Text.lower swap.source = Text.lower swap.target ∨
      Text.lower (Uri.home scheme).scheme ≠ Text.lower swap.source) :=
    not_or.mpr ⟨turns.differs, not_not.mpr turns.source⟩
  rw [offer?_eq, if_neg serves, puts, same]
  rfl

/-- Says that one of some swaps turns URIs of one scheme into URIs of another one. -/
def Bridges (swaps : List Swap) (scheme next : String) : Prop :=
  ∃ swap ∈ swaps, swap.Turns scheme next

/-- The schemes that swaps turn URIs into. -/
def targets (swaps : List Swap) : List String :=
  swaps.filterMap fun swap => Uri.schemeOf? (Text.lower swap.target)

variable {swaps : List Swap}

theorem mem_targets (ahead : TransGen (Bridges swaps) scheme next) : next ∈ targets swaps := by
  have last : ∃ before, Bridges swaps before next := by
    cases ahead with
    | single turn => exact ⟨_, turn⟩
    | tail _ turn => exact ⟨_, turn⟩
  obtain ⟨before, swap, member, turns⟩ := last
  exact List.mem_filterMap.mpr ⟨swap, member, turns.target⟩

theorem length_targets_le (swaps : List Swap) : (targets swaps).length ≤ swaps.length :=
  List.length_filterMap_le _ _

/-- **Says which swaps there are among some endpoints**, all others of which answer themselves. -/
inductive Among : List Swap → List (Endpoint σ) → Prop where
  | nil : Among [] []
  | answers {swaps : List Swap} {endpoint : Endpoint σ} {rest : List (Endpoint σ)}
      {answer : Answerer σ} : endpoint.delivery = .answers answer → Among swaps rest →
      Among swaps (endpoint :: rest)
  | swap {swaps : List Swap} {rest : List (Endpoint σ)} (swap : Swap) : Among swaps rest →
      Among (swap :: swaps) (swap.endpoint :: rest)

namespace Among

variable {endpoints : List (Endpoint σ)}

/-- Whoever does not answer is one of the swaps. -/
theorem of_mem (among : Among swaps endpoints) {endpoint : Endpoint σ}
    (member : endpoint ∈ endpoints) :
    (∃ answer, endpoint.delivery = .answers answer) ∨ ∃ swap ∈ swaps, endpoint = swap.endpoint := by
  induction among with
  | nil => cases member
  | answers delivers rest ih =>
    rcases List.mem_cons.mp member with rfl | later
    · exact Or.inl ⟨_, delivers⟩
    · exact ih later
  | swap swap rest ih =>
    rcases List.mem_cons.mp member with rfl | later
    · exact Or.inr ⟨swap, List.mem_cons_self, rfl⟩
    · rcases ih later with answers | ⟨other, isOther, same⟩
      · exact Or.inl answers
      · exact Or.inr ⟨other, List.mem_cons_of_mem swap isOther, same⟩

theorem map_endpoint (swaps : List Swap) :
    Among swaps (swaps.map fun swap => (swap.endpoint : Endpoint σ)) := by
  induction swaps with
  | nil => exact .nil
  | cons swap rest ih => exact .swap swap ih

end Among

end Swap

namespace Registry

open Swap

variable {registry : Registry σ} {swaps : List Swap} {uri : Uri} {found : Match σ}

/-! ### Schemes that do not lead back -/

/-- Who is found for a URI answers, or is one of the swaps. -/
theorem answers_or_bridges_of_find (among : Among swaps registry.endpoints)
    (finds : registry.find uri = some found) :
    (∃ answer, found.endpoint.delivery = .answers answer) ∨
      found.endpoint.delivery = .handsOn ∧ Bridges swaps uri.scheme found.uri.scheme := by
  obtain ⟨endpoint, member, offers⟩ := exists_offer_of_find finds
  obtain rfl := Endpoint.endpoint_of_offer offers
  rcases among.of_mem member with answers | ⟨swap, isSwap, same⟩
  · exact Or.inl answers
  · rw [same] at offers ⊢
    exact Or.inr ⟨rfl, swap, isSwap, (turns_of_offer offers).1⟩

/-- A call ends up somewhere if no scheme leads back to itself, after as many swaps at most as there
are schemes ahead. -/
theorem leads_of_ahead (among : Among swaps registry.endpoints)
    (acyclic : ∀ scheme, ¬ TransGen (Bridges swaps) scheme scheme) {ahead : List String}
    (covers : ∀ scheme, TransGen (Bridges swaps) uri.scheme scheme → scheme ∈ ahead)
    (finds : registry.find uri = some found) :
    ∃ route steps, registry.Leads found route steps ∧ steps ≤ ahead.length := by
  -- The scheme that a swap turns into is never ahead again, so one scheme less is.
  induction size : ahead.length using Nat.strong_induction_on generalizing ahead uri found with
  | _ size ih =>
    subst size
    rcases answers_or_bridges_of_find among finds with ⟨answer, delivers⟩ | ⟨hands, turn⟩
    · exact ⟨_, 0, .answered delivers, Nat.zero_le _⟩
    · have member := covers found.uri.scheme (.single turn)
      have coversRest : ∀ scheme, TransGen (Bridges swaps) found.uri.scheme scheme →
          scheme ∈ ahead.erase found.uri.scheme := by
        intro scheme path
        refine (List.mem_erase_of_ne ?_).mpr (covers scheme (.head turn path))
        rintro rfl
        exact acyclic _ path
      have fewer := List.length_erase_of_mem member
      have some_ahead := List.length_pos_of_mem member
      cases onward : registry.find found.uri with
      | none => exact ⟨_, 0, .lost hands onward, Nat.zero_le _⟩
      | some next =>
        obtain ⟨route, steps, leads, within⟩ := ih _ (by omega) coversRest onward rfl
        exact ⟨route, steps + 1, .onward hands onward leads, by omega⟩

/-- **No call is handed on for ever** if no scheme leads back to itself: each one ends up somewhere,
after as many swaps at most as there are. -/
theorem leads_of_acyclic (among : Among swaps registry.endpoints)
    (acyclic : ∀ scheme, ¬ TransGen (Bridges swaps) scheme scheme)
    (finds : registry.find uri = some found) :
    ∃ route, ∃ steps ≤ swaps.length, registry.Leads found route steps := by
  obtain ⟨route, steps, leads, within⟩ :=
    leads_of_ahead among acyclic (fun _ ahead => mem_targets ahead) finds
  exact ⟨route, steps, within.trans (length_targets_le swaps), leads⟩

/-! ### Schemes that lead back -/

/-- Of offers with the greatest score the first one is the best. -/
theorem best?_of_forced {offers : List (Match σ)}
    (forced : ∀ offer ∈ offers, offer.score = Endpoint.forcedScore) :
    best? offers = offers.head? := by
  cases offers with
  | nil => rfl
  | cons offer rest =>
    obtain ⟨first, others⟩ := List.forall_mem_cons.mp forced
    have least : ∀ other ∈ rest, other.score ≤ offer.score := fun other member =>
      Int.le_of_eq ((others other member).trans first.symm)
    exact congrArg some (bestFrom_of_le least)

/-- The registry that consists of some swaps. -/
def ofSwaps (swaps : List Swap) : Registry σ := ⟨swaps.map Swap.endpoint⟩

theorem among_ofSwaps (swaps : List Swap) : Among swaps (ofSwaps swaps : Registry σ).endpoints :=
  Among.map_endpoint swaps

/-- Says that a swap lies on a circle: what it turns a scheme into leads back to that scheme. -/
def OnCircle (swaps : List Swap) (swap : Swap) : Prop :=
  ∃ scheme next, swap.Turns scheme next ∧ ReflTransGen (Bridges swaps) next scheme

/-- A swap on a circle turns into a scheme that leads back to itself, whatever it turns. -/
theorem OnCircle.next {swap : Swap} (circle : OnCircle swaps swap) (member : swap ∈ swaps)
    {scheme next : String} (turns : swap.Turns scheme next) :
    TransGen (Bridges swaps) next next := by
  obtain ⟨other, next', turns', back⟩ := circle
  obtain rfl := Option.some.inj (turns.target.symm.trans turns'.target)
  exact .tail' back ⟨swap, member, turns'⟩

/-- If the swaps on circles come first, the URI of a scheme that leads back to itself is turned into
that of another such scheme. -/
theorem find_home {loops : List Swap}
    (isLoop : ∀ swap, swap ∈ loops ↔ swap ∈ swaps ∧ OnCircle swaps swap)
    (valid : ∀ swap ∈ swaps, Uri.isScheme swap.target = true) {scheme : String}
    (circle : TransGen (Bridges swaps) scheme scheme) : ∃ (found : Match σ) (next : String),
      (ofSwaps (loops ++ swaps)).find (Uri.home scheme) = some found ∧
      found.endpoint.delivery = .handsOn ∧ found.uri = Uri.home next ∧
      TransGen (Bridges swaps) next next := by
  obtain ⟨after, ⟨swap, member, turns⟩, back⟩ := TransGen.head'_iff.mp circle
  have isFirst : swap ∈ loops := (isLoop swap).mpr ⟨member, scheme, after, turns, back⟩
  have forced : ∀ offer ∈ (ofSwaps (loops ++ swaps) : Registry σ).endpoints.filterMap
      (fun endpoint => endpoint.offer? (Uri.home scheme)), offer.score = Endpoint.forcedScore := by
    intro offer isOffer
    obtain ⟨endpoint, isEndpoint, offers⟩ := List.mem_filterMap.mp isOffer
    obtain ⟨other, -, rfl⟩ := List.mem_map.mp isEndpoint
    exact (turns_of_offer offers).2
  unfold find
  rw [best?_of_forced forced]
  unfold ofSwaps
  rw [List.map_append, List.filterMap_append]
  cases offers : (loops.map fun swap => (swap.endpoint : Endpoint σ)).filterMap
      fun endpoint => endpoint.offer? (Uri.home scheme) with
  | nil =>
    rw [List.filterMap_eq_nil_iff] at offers
    have none := offers swap.endpoint (List.mem_map_of_mem isFirst)
    rw [offer?_home (valid swap member) turns] at none
    cases none
  | cons first rest =>
    obtain ⟨endpoint, isEndpoint, offer⟩ := List.mem_filterMap.mp (offers ▸ List.mem_cons_self)
    obtain ⟨other, isOther, rfl⟩ := List.mem_map.mp isEndpoint
    obtain ⟨otherMember, circle⟩ := (isLoop other).mp isOther
    have turns' : other.Turns scheme first.uri.scheme := (turns_of_offer offer).1
    have isHome := offer.symm.trans (offer?_home (valid other otherMember) turns')
    refine ⟨first, first.uri.scheme, rfl, ?_, ?_, circle.next otherMember turns'⟩
    · rw [Endpoint.endpoint_of_offer offer]
      rfl
    · exact congrArg Match.uri (Option.some.inj isHome)

/-- **Schemes that lead back to themselves** make a call go on for ever, in some registry of the
swaps. -/
theorem exists_endless (valid : ∀ swap ∈ swaps, Uri.isScheme swap.target = true) {scheme : String}
    (circle : TransGen (Bridges swaps) scheme scheme) : ∃ listed : List Swap,
      (∀ swap, swap ∈ listed ↔ swap ∈ swaps) ∧ ∃ found : Match σ,
        (ofSwaps listed).find (Uri.home scheme) = some found ∧
        ∀ route steps, ¬ (ofSwaps listed).Leads found route steps := by
  classical
  have isLoop : ∀ swap, swap ∈ swaps.filter (fun swap => decide (OnCircle swaps swap)) ↔
      swap ∈ swaps ∧ OnCircle swaps swap := by
    intro swap
    rw [List.mem_filter, decide_eq_true_eq]
  obtain ⟨found, next, finds, hands, isHome, again⟩ := find_home (σ := σ) isLoop valid circle
  refine ⟨_, fun swap => ?_, found, finds, fun route steps => ?_⟩
  · rw [List.mem_append, isLoop]
    tauto
  · refine not_leads_of_closed (fun found => found.endpoint.delivery = .handsOn ∧
      ∃ next, found.uri = Uri.home next ∧ TransGen (Bridges swaps) next next) ?_
      ⟨hands, next, isHome, again⟩
    rintro found ⟨hands, next, isHome, again⟩
    obtain ⟨onward, after, finds, hands', isHome', again'⟩ := find_home (σ := σ) isLoop valid again
    exact ⟨hands, onward, isHome ▸ finds, hands', after, isHome', again'⟩

/-! ### Both -/

/-- Says that every call in a registry ends up somewhere. -/
def Settles (registry : Registry σ) : Prop :=
  ∀ uri found, registry.find uri = some found →
    ∃ route steps, registry.Leads found route steps

/-- **Calls end up somewhere, whatever the registry of some swaps is, just if no scheme leads back
to itself.** The endpoints beside the swaps answer themselves. -/
theorem settles_iff_acyclic (valid : ∀ swap ∈ swaps, Uri.isScheme swap.target = true) :
    (∀ (registry : Registry σ) (listed : List Swap), Among listed registry.endpoints →
      (∀ swap, swap ∈ listed ↔ swap ∈ swaps) → registry.Settles) ↔
      ∀ scheme, ¬ TransGen (Bridges swaps) scheme scheme := by
  constructor
  · intro settles scheme circle
    obtain ⟨listed, same, found, finds, nowhere⟩ := exists_endless (σ := σ) valid circle
    obtain ⟨route, steps, leads⟩ := settles _ listed (among_ofSwaps listed) same _ found finds
    exact nowhere route steps leads
  · intro acyclic registry listed among same uri found finds
    have alike : Bridges listed = Bridges swaps := by
      funext scheme next
      unfold Bridges
      simp only [same]
    obtain ⟨route, steps, -, leads⟩ := leads_of_acyclic among (alike ▸ acyclic) finds
    exact ⟨route, steps, leads⟩

/-- The endpoints that are there without anyone adding them hand on calls for two schemes to the one
of the web, where they end up whatever carries them. -/
theorem standardRegistry_settles :
    (∀ swap ∈ [Swap.mk 1 "ext-http" "http", Swap.mk 2 "ext-https" "https"],
      Uri.isScheme swap.target = true) ∧
    ∀ carrier : Carrier Unit, (Exchange.standardRegistry carrier).Settles := by
  refine ⟨by decide, fun carrier => ?_⟩
  have listed : Among [Swap.mk 1 "ext-http" "http", Swap.mk 2 "ext-https" "https"]
      (Exchange.standardRegistry carrier).endpoints := .answers rfl (.swap _ (.swap _ .nil))
  refine (settles_iff_acyclic (by decide)).mpr ?_ _ _ listed fun _ => Iff.rfl
  intro scheme circle
  have isTarget : scheme ∈ ["http", "https"] := by
    have all : targets [Swap.mk 1 "ext-http" "http", Swap.mk 2 "ext-https" "https"]
        = ["http", "https"] := by decide +kernel
    exact all ▸ mem_targets circle
  have noSource : ∀ swap ∈ [Swap.mk 1 "ext-http" "http", Swap.mk 2 "ext-https" "https"],
      ∀ scheme ∈ ["http", "https"], Text.lower scheme ≠ Text.lower swap.source := by decide
  obtain ⟨next, ⟨swap, member, turns⟩, -⟩ := TransGen.head'_iff.mp circle
  exact noSource swap member scheme isTarget turns.source

/-- Two swaps, each of which leads to where the other one comes from. -/
def roundabout : List Swap := [Swap.mk 0 "a" "b", Swap.mk 1 "b" "a"]

/-- The home of the first scheme is found an endpoint, from where a call ends up nowhere. -/
theorem roundabout_leads_nowhere : ∃ found : Match Unit,
    (ofSwaps roundabout).find (Uri.home "a") = some found ∧
      ∀ route steps, ¬ (ofSwaps roundabout).Leads found route steps := by
  have fromA : (ofSwaps roundabout : Registry Unit).find (Uri.home "a")
      = some ⟨(Swap.mk 0 "a" "b").endpoint, Uri.home "b", Endpoint.forcedScore⟩ := rfl
  have fromB : (ofSwaps roundabout : Registry Unit).find (Uri.home "b")
      = some ⟨(Swap.mk 1 "b" "a").endpoint, Uri.home "a", Endpoint.forcedScore⟩ := rfl
  refine ⟨_, fromA, fun route steps => ?_⟩
  refine not_leads_of_closed (fun found => found.endpoint.delivery = .handsOn ∧
    (found.uri = Uri.home "a" ∨ found.uri = Uri.home "b")) ?_ ⟨rfl, Or.inr rfl⟩
  rintro found ⟨hands, isHome | isHome⟩
  · exact ⟨hands, _, isHome ▸ fromA, rfl, Or.inr rfl⟩
  · exact ⟨hands, _, isHome ▸ fromB, rfl, Or.inl rfl⟩

theorem parse_roundabout : Uri.parse "a://h/" = .ok (Uri.home "a") := by decide +kernel

/-- **A call on a roundabout** is found an endpoint and goes on for ever. -/
theorem roundabout_goes_on : ∃ (uri : Uri) (found : Match Unit), Uri.parse "a://h/" = .ok uri ∧
    (ofSwaps roundabout).find uri = some found ∧
    (ofSwaps roundabout).route found = none ∧
    ∀ route steps, ¬ (ofSwaps roundabout).Leads found route steps := by
  obtain ⟨found, finds, nowhere⟩ := roundabout_leads_nowhere
  exact ⟨_, found, parse_roundabout, finds, route_eq_none_iff.mpr nowhere, nowhere⟩

end Registry

end Switchboard
