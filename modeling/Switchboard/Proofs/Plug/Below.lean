import Switchboard.Proofs.Feature.Building
import Switchboard.Proofs.Signature.Remainder
import Switchboard.Proofs.Uri.Appended
/-!
What plugs tell features by their paths.

A plug is pointed below its URI by names. Each name becomes one segment of the path and stands for
that name alone, so what the plug was told is what a feature gets that is mounted above these
segments and captures them, whatever characters the names are made of.

* `Plug.below_tells`: what a plug is told is what a feature that is mounted on its path gets.
-/

namespace Switchboard

variable {σ : Type}

/-- Says that a service has a feature with a signature. -/
def Service.Mounts (service : Service σ) (written : String) (feature : Feature σ) : Prop :=
  ∃ draft ∈ service.drafts, draft.signature = written ∧
    ∃ counter, draft.build service.name service.baseSegments counter = .ok feature

/-- A feature that was mounted has the signature that was read below the base of its service. -/
theorem Service.Mounts.isRead {service : Service σ} {written : String} {feature : Feature σ}
    (mounts : service.Mounts written feature) :
    Signature.read service.baseSegments written = .ok feature.signature := by
  obtain ⟨draft, -, rfl, counter, built⟩ := mounts
  rcases draft.compiles_or_fails service.name service.baseSegments with
    ⟨other, compiles⟩ | ⟨fault, fails⟩
  · cases compiles.build_eq.symm.trans built
    exact compiles.signature
  · cases fails.build_eq.symm.trans built

/-- **Says that a feature serves a path and gets arguments of a kind from it**, whatever the verb is
and whoever calls. -/
structure Feature.Gets (feature : Feature σ) (uri : Uri) (holds : PathArguments → Prop) :
    Prop where
  serves : feature.serves uri.segments = true
  arguments : ∀ verb granted, holds (Dispatcher.contextOf feature verb uri granted).path

/-- The outline of what captures nothing and lets any number of segments follow. -/
def openOutline : Signature.Outline := { fixed := [], optional := 0, isOpen := true }

theorem openOutline_spells : openOutline.Spells "//*" :=
  ⟨"/*".toList, ["", "*"], ⟨['/'], [], by decide, Or.inl rfl, by decide⟩,
    ⟨by decide, by decide, by decide⟩, [], .nil, rfl⟩

namespace Plug

/-- **What a plug tells** of names at a URI that begins with some segments. -/
structure Tells (plug : Plug σ) (names front : List String) (uri : Uri) : Prop where
  /-- Nothing but the path is another one. -/
  rest : uri = { plug.uri with path := uri.path }
  segments : uri.segments = front ++ names.map Uri.encodeSegment
  decoded : (uri.segments.drop front.length).map Signature.decodeSegment = names
  /-- A feature that is mounted on what stands in front, and lets everything follow, gets them. -/
  suffixes : ∀ (service : Service σ) feature, service.baseSegments = front →
    service.Mounts "//*" feature →
      feature.Gets uri fun arguments => arguments = { suffixes := names, captures := [] }
  /-- A feature that is mounted there with a capture for each gets them under its names. -/
  captures : ∀ (service : Service σ) feature written (outline : Signature.Outline),
    service.baseSegments = front → service.Mounts written feature → outline.Spells written →
    (∀ token ∈ outline.fixed, token.isConstant = false) → outline.fixed.length = names.length →
      feature.Gets uri fun arguments =>
        arguments.captures.map Prod.fst
          = (feature.signature.captureNames.map fun capture => Text.lower capture.2) ∧
        arguments.captures.map Prod.snd = names ∧
        ((∀ token ∈ outline.fixed, token = .star) → arguments.suffixes = names)

theorem map_decode_encode (names : List String) :
    (names.map Uri.encodeSegment).map Signature.decodeSegment = names := by
  rw [List.map_map]
  exact (List.map_congr_left fun name _ => Uri.decodeSegment_encodeSegment name).trans
    (List.map_id names)

theorem below_uri (plug : Plug σ) (names : List String) :
    (plug.below names).uri = plug.uri.append names := rfl

theorem below_eq {plug : Plug σ} (hierarchy : plug.uri.isLiteral = false) (names : List String) :
    (plug.below names).uri = { plug.uri with path := (plug.below names).uri.path } := by
  obtain ⟨old, isOld⟩ := Uri.exists_path hierarchy
  simp only [below, Uri.append, Uri.withPath, isOld]

section

variable {service : Service σ} {feature : Feature σ} {front names : List String} {uri : Uri}
  (given : ∀ segment ∈ front, segment ≠ "")
  (segments : uri.segments = front ++ names.map Uri.encodeSegment)
  (base : service.baseSegments = front)
include given segments base

/-- **A feature that captures** what follows the base of its service gets it decoded. -/
theorem gets_of_mounts {written : String} {outline : Signature.Outline}
    (mounts : service.Mounts written feature) (spells : outline.Spells written)
    (takes : outline.TakesAny names.length) :
    feature.Gets uri fun arguments =>
      outline.Takes feature.signature (names.map Uri.encodeSegment) arguments := by
  have isRead := mounts.isRead
  rw [base] at isRead
  have takesAny : outline.TakesAny (names.map Uri.encodeSegment).length := by
    rwa [List.length_map]
  have serves : feature.signature.accepts uri.segments = true := by
    rw [segments]
    exact Signature.accepts_below given isRead spells takesAny
  refine ⟨serves, fun verb granted => ?_⟩
  obtain ⟨arguments, captured⟩ : ∃ arguments,
      feature.signature.capture? uri.segments = some arguments := by
    unfold Signature.capture?
    rw [if_pos serves]
    exact ⟨_, rfl⟩
  show outline.Takes _ _ ((feature.signature.capture? uri.segments).getD _)
  rw [captured, Option.getD_some]
  rw [segments] at captured
  exact Signature.takes_of_capture?_eq given isRead spells takesAny captured

/-- A feature that lets any number of segments follow gets all of them as suffixes. -/
theorem gets_suffixes (mounts : service.Mounts "//*" feature) :
    feature.Gets uri fun arguments => arguments = { suffixes := names, captures := [] } := by
  have takes : openOutline.TakesAny names.length :=
    ⟨List.forall_mem_nil _, Nat.zero_le _, fun closed => absurd closed (by decide)⟩
  have gets := gets_of_mounts given segments base mounts openOutline_spells takes
  refine ⟨gets.serves, fun verb granted => ?_⟩
  have taken := gets.arguments verb granted
  have suffixes := (taken.suffixes (List.forall_mem_nil _)).trans (map_decode_encode names)
  have captures := List.map_eq_nil_iff.mp taken.values
  generalize (Dispatcher.contextOf feature verb uri granted).path = arguments at suffixes captures ⊢
  cases arguments
  exact congrArg₂ PathArguments.mk suffixes captures

/-- A feature with a capture for each segment gets them one by one. -/
theorem gets_captures {written : String} {outline : Signature.Outline}
    (mounts : service.Mounts written feature) (spells : outline.Spells written)
    (capturing : ∀ token ∈ outline.fixed, token.isConstant = false)
    (each : outline.fixed.length = names.length) :
    feature.Gets uri fun arguments =>
      arguments.captures.map Prod.fst
        = (feature.signature.captureNames.map fun capture => Text.lower capture.2) ∧
      arguments.captures.map Prod.snd = names ∧
      ((∀ token ∈ outline.fixed, token = .star) → arguments.suffixes = names) := by
  have takes : outline.TakesAny names.length :=
    ⟨capturing, Nat.le_of_eq each, fun _ => by omega⟩
  have gets := gets_of_mounts given segments base mounts spells takes
  have told := map_decode_encode names
  refine ⟨gets.serves, fun verb granted => ?_⟩
  have taken := gets.arguments verb granted
  have values := taken.values
  rw [List.take_of_length_le (by simp [each]), told] at values
  exact ⟨taken.names, values, fun stars => (taken.suffixes stars).trans told⟩

end

/-- **What a plug is told by names** is what a feature gets that is mounted on its path. Outside
files this path has the segments of the URI, and for a file it has them just if they last. -/
theorem below_tells (plug : Plug σ) (made : Uri.Made plug.uri)
    (hierarchy : plug.uri.isLiteral = false) {names : List String}
    (areNames : ∀ name ∈ names, Uri.IsName name) :
    plug.Tells names (plug.below []).uri.segments (plug.below names).uri ∧
    (plug.uri.scheme ≠ "file" → (plug.below []).uri.segments = plug.uri.segments) ∧
    ((plug.below []).uri.segments = plug.uri.segments ↔
      Uri.Lasting (decide (plug.uri.scheme = "file")) plug.uri.segments) := by
  have lasts := Uri.segments_append_nil_iff made hierarchy
  have segments : (plug.below names).uri.segments
      = (plug.below []).uri.segments ++ names.map Uri.encodeSegment := by
    rw [below_uri, below_uri, Uri.segments_append made hierarchy areNames]
  have given : ∀ segment ∈ (plug.below []).uri.segments, segment ≠ "" :=
    fun segment member => (Uri.of_mem_segments member).1
  have tells : plug.Tells names (plug.below []).uri.segments (plug.below names).uri :=
    { rest := below_eq hierarchy names
      segments := segments
      decoded := by rw [segments, List.drop_left' rfl, map_decode_encode]
      suffixes := fun _ _ base mounts => gets_suffixes given segments base mounts
      captures := fun _ _ _ _ base mounts spells capturing each =>
        gets_captures given segments base mounts spells capturing each }
  exact ⟨tells, fun noFile => lasts.mpr (Uri.lasting_segments made hierarchy noFile), lasts⟩

/-! ### A pantry -/

/-- What serves everything. -/
def pantryDraft : Draft Unit :=
  { Draft.of "GET" "//*" with handler := some fun _ => return .ok .ok }

/-- A service that serves everything below a shelf of a pantry. -/
def pantry : Service Unit := { name := "pantry", basePath := "pantry/top", drafts := [pantryDraft] }

/-- The feature that it has. -/
def pantryFeature : Feature Unit :=
  { service := "pantry", verb := some .get, access := .anyone, description := none
    signature := { written := "//*", places := [.constant "pantry", .constant "top"]
                   extent := .unbounded }
    prologues := [], epilogues := [], counter := default
    main := { name := "GET:/pantry/top//*", plan := ⟨[]⟩, handler := fun _ => return .ok .ok } }

theorem pantry_mounts : pantry.Mounts "//*" pantryFeature := by
  have compiles : pantryDraft.Compiles "pantry" ["pantry", "top"] pantryFeature :=
    { service := rfl, verb := by decide +kernel, signature := by decide +kernel, access := rfl
      description := rfl, handler := rfl, key := by decide +kernel, plan := rfl, prologues := .nil
      epilogues := .nil, counter := rfl }
  have base : pantry.baseSegments = ["pantry", "top"] := by decide +kernel
  refine ⟨_, List.mem_singleton_self _, rfl, default, ?_⟩
  rw [base]
  exact compiles.build_eq

/-- A plug for the shelf. -/
def pantryPlug : Plug Unit :=
  Plug.of
    { scheme := "http", dotted := false, path := .segments ["pantry", "", "top"]
      authority := some { username := "", password := "", host := "h", port := some 81 }
      query := some "x=1", fragment := some "y" } .standard

/-- What stands on its labels. -/
def labels : List String := ["a b", "50%", "?#+", "ü", "%2E"]

/-- What stands on the labels is what the pantry gets. -/
theorem pantry_gets : Uri.parse "http://h:81/pantry//top?x=1#y" = .ok pantryPlug.uri ∧
    pantryPlug.uri.isLiteral = false ∧ (∀ name ∈ labels, Uri.IsName name) ∧
    pantry.Mounts "//*" pantryFeature ∧
    (pantryPlug.below labels).uri.text
      = "http://h:81/pantry/top/a%20b/50%25/%3F%23%2B/%C3%BC/%252E?x=1#y" ∧
    pantryFeature.Gets (pantryPlug.below labels).uri fun arguments =>
      arguments = { suffixes := labels, captures := [] } := by
  have read : Uri.parse "http://h:81/pantry//top?x=1#y" = .ok pantryPlug.uri := by decide +kernel
  have areNames : ∀ name ∈ labels, Uri.IsName name := by decide
  have told := (below_tells pantryPlug (.parse read) (by decide) areNames).1
  refine ⟨read, by decide, areNames, pantry_mounts, by decide +kernel, ?_⟩
  exact told.suffixes pantry pantryFeature (by decide +kernel) pantry_mounts

/-- A plug for a drive letter with a bar. -/
def barPlug : Plug Unit :=
  Plug.of
    { scheme := "file", dotted := false, path := .segments ["C|"], query := none, fragment := none
      authority := some { username := "", password := "", host := "", port := none } } .standard

/-- **A drive letter with a bar** is another segment once something was added to the path. -/
theorem bar_becomes_colon : Uri.parse "file:///C|" = .ok barPlug.uri ∧
    barPlug.uri.isLiteral = false ∧ Uri.IsName "x" ∧ barPlug.uri.segments = ["C|"] ∧
    (barPlug.below ["x"]).uri.segments = ["C:", "x"] ∧
    ¬ ∃ added, (barPlug.below ["x"]).uri.segments = barPlug.uri.segments ++ added := by
  have before : barPlug.uri.segments = ["C|"] := by decide +kernel
  have after : (barPlug.below ["x"]).uri.segments = ["C:", "x"] := by decide +kernel
  refine ⟨by decide +kernel, by decide, by decide, before, after, ?_⟩
  rw [before, after]
  rintro ⟨added, same⟩
  exact absurd (List.cons.inj same).1 (by decide)

end Plug

end Switchboard
