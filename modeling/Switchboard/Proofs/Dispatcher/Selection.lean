import Switchboard.Proofs.Dispatcher.StageRuns
import Switchboard.Proofs.Feature.Rank
/-!
Which feature a dispatcher selects.

Of the features that serve a path and accept a verb, the dispatcher selects the first of the best.
If there is none, no feature runs. The answer then tells whether the path is served at all, and if
it is, for which verbs. The selected feature runs with what its own signature captures of the path.

* `Dispatcher.select_eq_some_iff` and `Dispatcher.select_eq_none_iff`: what is selected.
* `Dispatcher.allowedVerbs_eq` and `Dispatcher.nodup_allowedVerbs`: the verbs of a path, each of
  them once.
* `Dispatcher.dispatch_of_select_eq_none`: a request for which nothing is selected is answered at
  once.
* `Dispatcher.Selects` puts these together, and `Dispatcher.select_first_of_best` says that it is so
  for every dispatcher.
-/

namespace Switchboard

variable {σ : Type}

/-- A feature accepts a verb exactly if it is for every verb or for that one. -/
theorem Feature.accepts_iff {feature : Feature σ} {verb : Verb} :
    feature.accepts verb = true ↔ ∀ own, feature.verb = some own → own = verb := by
  unfold accepts
  cases feature.verb with
  | none => exact ⟨fun _ own given => (nomatch given), fun _ => rfl⟩
  | some own => simp

/-- A signature captures something of exactly the paths that it serves. -/
theorem Signature.isSome_capture? (signature : Signature) (path : List String) :
    (signature.capture? path).isSome = signature.accepts path := by
  unfold capture?
  cases signature.accepts path <;> rfl

namespace Message

theorem status_methodNotAllowed (allowed : List String) (reason : String) :
    (methodNotAllowed allowed reason).status = .methodNotAllowed :=
  status_explain .methodNotAllowed reason

/-- The answer to a verb that is not allowed names those that are. -/
theorem allow_methodNotAllowed (allowed : List String) (reason : String) :
    (methodNotAllowed allowed reason).headers.get? "Allow" = some (Text.join ", " allowed) :=
  Headers.get?_insert _ "Allow" _

end Message

namespace Dispatcher

variable {dispatcher : Dispatcher σ} {verb : Verb} {path : List String} {feature : Feature σ}

/-! ### What is selected -/

/-- **The first of the best is selected**, of the features that serve the path and accept the
verb. -/
theorem select_eq_some_iff : dispatcher.select verb path = some feature ↔
    feature.Leads (dispatcher.features.filter fun other =>
      other.signature.accepts path && other.accepts verb) := by
  unfold select candidates
  rw [Feature.best?_eq_some_iff, List.filter_filter]
  simp only [Bool.and_comm, Feature.serves]

/-- **Nothing is selected** exactly if no feature that serves the path accepts the verb. -/
theorem select_eq_none_iff : dispatcher.select verb path = none ↔
    ∀ feature ∈ dispatcher.features, feature.signature.accepts path = true →
      feature.accepts verb = false := by
  unfold select candidates
  rw [Feature.best?_eq_none_iff, List.filter_eq_nil_iff]
  simp only [List.mem_filter, and_imp, Feature.serves, Bool.not_eq_true]

/-- What is selected serves the path. -/
theorem accepts_of_select (selected : dispatcher.select verb path = some feature) :
    feature.signature.accepts path = true := by
  have member := (select_eq_some_iff.mp selected).mem
  exact (Bool.and_eq_true_iff.mp (List.mem_filter.mp member).2).1

/-- **The context of a selected feature tells what its signature captures.** -/
theorem capture?_of_select {uri : Uri} (granted : Access)
    (selected : dispatcher.select verb uri.segments = some feature) :
    feature.signature.capture? uri.segments
      = some (contextOf feature verb uri granted).path := by
  have captures : (feature.signature.capture? uri.segments).isSome = true := by
    rw [Signature.isSome_capture?, accepts_of_select selected]
  obtain ⟨arguments, captured⟩ := Option.isSome_iff_exists.mp captures
  simp only [contextOf, captured, Option.getD_some]

/-! ### The verbs of a path -/

/-- Adding verbs one after the other adds each that is not there once. -/
theorem foldl_addVerb (verbs added : List String) :
    added.foldl addVerb verbs = verbs ++ (added.filter (· ∉ verbs)).eraseDups := by
  -- The verbs that are there are general: each step adds to them.
  induction added generalizing verbs with
  | nil => simp
  | cons verb rest ih =>
    rw [List.foldl_cons, ih]
    unfold addVerb
    by_cases known : verb ∈ verbs
    · rw [if_pos known, List.filter_cons_of_neg (by simpa using known)]
    · have others : rest.filter (· ∉ verbs ++ [verb])
          = rest.filter fun other => !other == verb && decide (other ∉ verbs) :=
        List.filter_congr fun other _ => by
          by_cases same : other = verb <;> simp [same]
      rw [if_neg known, List.filter_cons_of_pos (by simpa using known), List.eraseDups_cons,
        List.filter_filter, List.append_assoc, others]
      rfl

/-- **The verbs of a path** are those of the features that serve it, in order. -/
theorem allowedVerbs_eq (dispatcher : Dispatcher σ) (path : List String) :
    dispatcher.allowedVerbs path = ((dispatcher.features.filter fun feature =>
      feature.signature.accepts path).map Feature.verbText).eraseDups := by
  unfold allowedVerbs
  rw [foldl_addVerb, List.nil_append, List.filter_eq_self.mpr fun _ _ => by simp]
  rfl

theorem nodup_addVerb {verbs : List String} (nodup : verbs.Nodup) (verb : String) :
    (addVerb verbs verb).Nodup := by
  unfold addVerb
  split
  · exact nodup
  · rename_i new
    refine List.nodup_append.mpr ⟨nodup, List.pairwise_singleton _ verb, ?_⟩
    rintro other known _ added rfl
    exact new (List.mem_singleton.mp added ▸ known)

/-- No verb stands twice among the verbs of a path. -/
theorem nodup_allowedVerbs (dispatcher : Dispatcher σ) (path : List String) :
    (dispatcher.allowedVerbs path).Nodup := by
  unfold allowedVerbs
  exact List.foldlRecOn _ addVerb List.nodup_nil fun _ nodup verb _ => nodup_addVerb nodup verb

/-- A path has no verbs exactly if no feature serves it. -/
theorem allowedVerbs_eq_nil_iff : dispatcher.allowedVerbs path = [] ↔
    ∀ feature ∈ dispatcher.features, feature.signature.accepts path = false := by
  have unserved_iff : dispatcher.allowedVerbs path = [] ↔
      (dispatcher.features.filter fun feature => feature.signature.accepts path) = [] := by
    rw [allowedVerbs_eq]
    cases dispatcher.features.filter fun feature => feature.signature.accepts path with
    | nil => simp
    | cons feature rest => simp [List.eraseDups_cons]
  rw [unserved_iff, List.filter_eq_nil_iff]
  simp only [Bool.not_eq_true]

/-! ### Requests for which nothing is selected -/

/-- A request for which nothing is selected is answered at once, and nothing else happens. -/
theorem dispatch_of_select_eq_none {uri : Uri} {scope : Scope} {world : World σ}
    (unselected : dispatcher.select verb uri.segments = none) (reaches : scope.Reaches world.now)
    (request : Message) (granted : Access) :
    dispatcher.dispatch verb uri request granted scope world
      = (.done (dispatcher.unserved verb uri), world) := by
  have refused : dispatcher.gate verb uri request granted
      = (.refused (dispatcher.unserved verb uri), Span.zero) := by
    unfold gate
    rw [unselected]
  have waited : Activity.wait Span.zero scope world = (.done (), world) :=
    @Activity.wait_of_reaches σ Span.zero scope world reaches
  unfold dispatch
  simp only [refused]
  rw [Activity.bind_of_done (congrArg Prod.fst waited), waited]
  rfl

/-- **What is answered if nothing is selected.** -/
structure Unserved (dispatcher : Dispatcher σ) (verb : Verb) (path : List String)
    (response : Message) : Prop where
  /-- The path is not found exactly if no feature serves it. -/
  notFound_iff : response.status.code = 404 ↔
    ∀ feature ∈ dispatcher.features, feature.signature.accepts path = false
  /-- Otherwise the verb is not allowed, and the answer names the verbs of the features that serve
  the path, each once and in the order of the features. -/
  notAllowed : (∃ feature ∈ dispatcher.features, feature.signature.accepts path = true) →
    response.status.code = 405 ∧ ∃ verbs,
      response.headers.get? "Allow" = some (Text.join ", " verbs) ∧ verbs.Nodup ∧
        verbs = ((dispatcher.features.filter fun feature =>
          feature.signature.accepts path).map Feature.verbText).eraseDups
  /-- These features are for one verb each, and it is another one. -/
  others : ∀ feature ∈ dispatcher.features, feature.signature.accepts path = true →
    ∃ own, feature.verb = some own ∧ own ≠ verb

/-- The answer to a request for which nothing is selected. -/
theorem unserved_of_select_eq_none {uri : Uri}
    (unselected : dispatcher.select verb uri.segments = none) :
    dispatcher.Unserved verb uri.segments (dispatcher.unserved verb uri) := by
  have others : ∀ feature ∈ dispatcher.features,
      feature.signature.accepts uri.segments = true →
        ∃ own, feature.verb = some own ∧ own ≠ verb := by
    intro feature member serves
    have rejected := select_eq_none_iff.mp unselected feature member serves
    by_contra unlike
    refine Bool.eq_false_iff.mp rejected (Feature.accepts_iff.mpr fun own given => ?_)
    by_contra differs
    exact unlike ⟨own, given, differs⟩
  match allowed : dispatcher.allowedVerbs uri.segments with
  | [] =>
    have unmatched := allowedVerbs_eq_nil_iff.mp allowed
    have answer : (dispatcher.unserved verb uri).status = .notFound := by
      unfold unserved
      rw [allowed]
      exact Message.status_explain _ _
    refine ⟨⟨fun _ => unmatched, fun _ => by rw [answer]; rfl⟩, ?_, others⟩
    rintro ⟨feature, member, serves⟩
    exact absurd serves (Bool.eq_false_iff.mp (unmatched feature member))
  | first :: rest =>
    have answer : dispatcher.unserved verb uri
        = Message.methodNotAllowed (dispatcher.allowedVerbs uri.segments)
            (verb.name ++ " is not allowed on " ++ uri.pathText) := by
      unfold unserved
      rw [allowed]
    have status : (dispatcher.unserved verb uri).status = .methodNotAllowed := by
      rw [answer]
      exact Message.status_methodNotAllowed _ _
    refine ⟨?_, fun _ => ⟨by rw [status]; rfl, _, ?_, dispatcher.nodup_allowedVerbs _,
      dispatcher.allowedVerbs_eq _⟩, others⟩
    · rw [status, ← allowedVerbs_eq_nil_iff, allowed]
      exact ⟨fun found => absurd found (by decide), fun empty => nomatch empty⟩
    · rw [answer]
      exact Message.allow_methodNotAllowed _ _

/-! ### Selecting and answering -/

/-- **What every dispatcher selects for a verb, and what it does with it.** -/
structure Selects (dispatcher : Dispatcher σ) (verb : Verb) : Prop where
  /-- It selects the first of the best of the features that serve the path and accept the verb. -/
  selected_iff : ∀ path feature, dispatcher.select verb path = some feature ↔
    feature.Leads (dispatcher.features.filter fun other =>
      other.signature.accepts path && other.accepts verb)
  /-- It selects nothing exactly if no feature that serves the path accepts the verb. -/
  unselected_iff : ∀ path, dispatcher.select verb path = none ↔
    ∀ feature ∈ dispatcher.features, feature.signature.accepts path = true →
      feature.accepts verb = false
  /-- If it selects nothing, it answers at once, and nothing else happens. -/
  unserved : ∀ uri request granted (scope : Scope) (world : World σ), scope.Reaches world.now →
    dispatcher.select verb uri.segments = none → ∃ response,
      dispatcher.dispatch verb uri request granted scope world = (.done response, world) ∧
        dispatcher.Unserved verb uri.segments response
  /-- What it selects runs with what its own signature captures of the path. -/
  captured : ∀ uri request granted feature context memorized spent,
    dispatcher.gate verb uri request granted = (.admitted feature context memorized, spent) →
      dispatcher.select verb uri.segments = some feature ∧
        feature.signature.capture? uri.segments = some context.path

/-- **Every dispatcher selects the first of the best features**; and of all features that are built
of drafts with signatures whose length is a number of 64 bits, those with a final star let the most
segments follow. -/
theorem select_first_of_best (dispatcher : Dispatcher σ) (verb : Verb) :
    dispatcher.Selects verb ∧
      ∀ (draft : Draft σ) service base counter feature,
        draft.build service base counter = .ok feature →
          draft.signature.length < Number.maxWord → feature.signature.extent ≠ .unbounded →
            feature.signature.extent.toNat < Extent.unbounded.toNat := by
  refine ⟨⟨fun _ _ => select_eq_some_iff, fun _ => select_eq_none_iff, ?_, ?_⟩,
    fun _ _ _ _ _ => Draft.toNat_extent_lt⟩
  · intro uri request granted scope world reaches unselected
    exact ⟨_, dispatch_of_select_eq_none unselected reaches request granted,
      unserved_of_select_eq_none unselected⟩
  · intro uri request granted feature context memorized spent admitted
    obtain ⟨selected, _, _, _, rfl⟩ := gate_admitted_iff.mp admitted
    exact ⟨selected, capture?_of_select granted selected⟩

/-! ### A stockroom -/

/-- A feature for every caller that answers with a success. -/
def shelf (verb : Verb) (extent : Extent) : Feature Unit :=
  { service := "stock", verb := some verb, access := .anyone, description := none
    signature := { written := "items", places := [.constant "items"], extent }
    prologues := [], epilogues := [], counter := { place := "", number := 0 }
    main := { name := "items", plan := ⟨[]⟩, handler := fun _ => return .ok .ok } }

theorem accepts_shelf (verb : Verb) (extent : Extent) :
    (shelf verb extent).signature.accepts ["items"] = true := by
  have same : Signature.acceptsSegment (.constant "items") "items" = true := by decide +kernel
  cases extent <;> simp [shelf, Signature.accepts, Signature.fixedLength, Extent.allows, same]

/-- A dispatcher that serves one path for two verbs, with two features for one of them. -/
def stockroom : Dispatcher Unit :=
  { place := "", settings := { maxBytes := 4, bodyTimeout := Span.ofSeconds 60 }, registered := 3
    features := [shelf .get .unbounded, shelf .post (.atMost 0), shelf .get (.atMost 0)] }

/-- A draft of a feature that lets one more segment follow. -/
def spareShelf : Draft Unit :=
  { Draft.of "GET" "items/?" with handler := some fun _ => return .ok .ok }

/-- In the stockroom the feature with the fewest segments to follow is selected, and the answer to
another verb names the two verbs once. -/
theorem stockroom_selects :
    stockroom.select .get ["items"] = some (shelf .get (.atMost 0)) ∧
      (∃ (uri : Uri) (response : Message), (Uri.parse "local://host/items").toOption = some uri ∧
        stockroom.dispatch .delete uri .ok .anyone .outermost (World.initial 0 ())
          = (.done response, World.initial 0 ()) ∧
        response.status.code = 405 ∧ response.headers.get? "Allow" = some "GET, POST") ∧
      ∃ feature, spareShelf.build "stock" [] { place := "", number := 0 } = .ok feature ∧
        feature.signature.extent.toNat < Extent.unbounded.toNat := by
  refine ⟨?selected, ?unserved, ?most⟩
  case selected =>
    refine ((select_first_of_best stockroom .get).1.selected_iff _ _).mpr
      ⟨[shelf .get .unbounded], [], ?_, ?_, List.forall_mem_nil _⟩
    · simp only [stockroom, List.filter_cons, accepts_shelf, Bool.true_and]
      rfl
    · exact List.forall_mem_singleton.mpr (Feature.outranks_iff.mp (by decide))
  case unserved =>
    have parsed : ∃ uri, (Uri.parse "local://host/items").toOption = some uri ∧
        uri.segments = ["items"] :=
      ⟨{ scheme := "local", dotted := false, path := .segments ["items"], query := none
         authority := some { username := "", password := "", host := "host", port := none }
         fragment := none }, by decide +kernel⟩
    obtain ⟨uri, parsed, path⟩ := parsed
    have rejected : ∀ feature ∈ stockroom.features, feature.accepts .delete = false := by decide
    have selects := (select_first_of_best stockroom .delete).1
    obtain ⟨response, answered, unserved⟩ := selects.unserved uri .ok .anyone .outermost
      (World.initial 0 ()) (fun deadline given => nomatch given)
      ((selects.unselected_iff _).mpr fun feature member _ => rejected feature member)
    obtain ⟨status, verbs, named, _, rfl⟩ := unserved.notAllowed
      ⟨shelf .post (.atMost 0), by simp [stockroom], path ▸ accepts_shelf _ _⟩
    refine ⟨uri, response, parsed, answered, status, named.trans ?_⟩
    rw [path]
    decide +kernel
  case most =>
    have made : ((spareShelf.build "stock" [] { place := "", number := 0 }).toOption.any
        fun feature => feature.signature.extent ≠ .unbounded) = true := by decide +kernel
    match built : spareShelf.build "stock" [] { place := "", number := 0 } with
    | .error fault =>
      rw [built] at made
      cases made
    | .ok feature =>
      rw [built] at made
      exact ⟨feature, rfl, (select_first_of_best stockroom .get).2 spareShelf "stock" [] _ feature
        built (by decide) (of_decide_eq_true made)⟩

end Dispatcher

end Switchboard
