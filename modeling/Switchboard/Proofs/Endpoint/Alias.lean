import Switchboard.Endpoint.Local
import Switchboard.Proofs.Uri.Direct
/-!
What lies below the aliases of a host in the same process.

A URI below an alias is asked of the host itself, with the segments after those of the alias and with
the same query. That is how the text of the host with these segments and this query would be asked.

* `LocalHost.Below` says that a URI lies below another one.
* `Dispatcher.gate_alike`: what a dispatcher makes of a request depends on the segments and the
  query alone.
* `LocalHost.score_of_first`: the URI that the first alias makes.
* `LocalHost.alias_transparent` is all of it.
-/

namespace Switchboard

variable {σ : Type}

/-! ### Requests by one path and query -/

/-- Says that two requests come to the same: both are refused with one status, or one feature answers
both of them by the same request and in circumstances that differ in nothing but the text of the
URI. -/
def Admission.Alike : Admission σ → Admission σ → Prop
  | .refused one, .refused other => one.status = other.status
  | .admitted one context request, .admitted other context' request' =>
    one = other ∧ request = request' ∧ context' = { context with uri := context'.uri } ∧
      context.uri.segments = context'.uri.segments ∧ context.queryPairs = context'.queryPairs
  | _, _ => False

/-- **Segments and query decide a request**, together with the verb, the message and the access. -/
theorem Dispatcher.gate_alike (dispatcher : Dispatcher σ) (verb : Verb) {one other : Uri}
    (segments : one.segments = other.segments) (query : one.query = other.query)
    (request : Message) (granted : Access) :
    (dispatcher.gate verb one request granted).1.Alike
        (dispatcher.gate verb other request granted).1 ∧
      (dispatcher.gate verb one request granted).2
        = (dispatcher.gate verb other request granted).2 := by
  have unserved : (dispatcher.unserved verb one).status
      = (dispatcher.unserved verb other).status := by
    unfold Dispatcher.unserved
    rw [segments]
    split
    · rw [Message.status_explain, Message.status_explain]
    · simp only [Message.methodNotAllowed, Message.status_explain]
  have pairs : one.queryPairs = other.queryPairs := by
    unfold Uri.queryPairs
    rw [query]
  unfold Dispatcher.gate
  rw [segments]
  split
  · exact ⟨unserved, rfl⟩
  · rename_i feature _
    split
    · dsimp only
      split
      · exact ⟨rfl, rfl⟩
      · split
        · exact ⟨rfl, rfl⟩
        · refine ⟨⟨rfl, rfl, ?_, segments, pairs⟩, rfl⟩
          unfold Dispatcher.contextOf
          rw [segments]
    · exact ⟨rfl, rfl⟩

namespace LocalHost

/-! ### Below an alias -/

/-- **Says that a URI lies below another one**, with some segments after those of the other: scheme,
host and port are the same, and the segments before these are, all up to the case of letters. -/
structure Below (uri root : Uri) (rest : List String) : Prop where
  scheme : Text.lower root.scheme = Text.lower uri.scheme
  host : root.host?.map Text.lower = uri.host?.map Text.lower
  port : root.port? = uri.port?
  segments : ∃ front, uri.segments = front ++ rest ∧
    front.map Text.lower = root.segments.map Text.lower

theorem sameNames_iff {items front : List String} (length : items.length = front.length) :
    ((items.zip front).all fun (a, b) => Text.sameName a b) = true ↔
      items.map Text.lower = front.map Text.lower := by
  induction items generalizing front with
  | nil =>
    cases front with
    | nil => simp
    | cons first others => cases length
  | cons item rest ih =>
    cases front with
    | nil => cases length
    | cons first others =>
      have tails : rest.length = others.length := Nat.succ.inj length
      simp [Text.sameName_iff, ih tails]

theorem beginsWith_append_iff {front rest other : List String}
    (length : front.length = other.length) :
    Uri.beginsWith (front ++ rest) other = true ↔
      front.map Text.lower = other.map Text.lower := by
  have zipped : (front ++ rest).zip other = front.zip other := by
    have whole : (front ++ rest).zip (other ++ []) = front.zip other ++ rest.zip [] :=
      List.zip_append length
    simpa using whole
  rw [← sameNames_iff length, Uri.beginsWith, zipped]
  simp [length]

theorem length_eq_of_sameNames {front other : List String}
    (same : front.map Text.lower = other.map Text.lower) : front.length = other.length := by
  have lengths := congrArg List.length same
  rwa [List.length_map, List.length_map] at lengths

theorem liesBelow_iff {uri root : Uri} :
    liesBelow uri root = true ↔ ∃ rest, Below uri root rest := by
  unfold liesBelow Uri.sameOrigin
  simp only [Bool.and_eq_true, beq_iff_eq, Text.sameName_iff]
  constructor
  · rintro ⟨⟨⟨scheme, host⟩, port⟩, begins⟩
    have enough : root.segments.length ≤ uri.segments.length := by
      unfold Uri.beginsWith at begins
      rw [Bool.and_eq_true] at begins
      exact of_decide_eq_true begins.1
    have length : (uri.segments.take root.segments.length).length = root.segments.length := by
      rw [List.length_take]
      omega
    rw [← List.take_append_drop root.segments.length uri.segments,
      beginsWith_append_iff length] at begins
    exact ⟨uri.segments.drop root.segments.length, scheme, host, port,
      uri.segments.take root.segments.length, (List.take_append_drop _ _).symm, begins⟩
  · rintro ⟨rest, scheme, host, port, front, segments, same⟩
    refine ⟨⟨⟨scheme, host⟩, port⟩, ?_⟩
    rw [segments]
    exact (beginsWith_append_iff (length_eq_of_sameNames same)).mpr same

/-- What follows the segments of an alias is what is left once these are dropped. -/
theorem Below.drop_eq {uri root : Uri} {rest : List String} (below : Below uri root rest) :
    uri.segments.drop root.segments.length = rest := by
  obtain ⟨front, segments, same⟩ := below.segments
  rw [segments, ← length_eq_of_sameNames same, List.drop_left]

theorem Below.ownUri_eq {uri root : Uri} {rest : List String} (below : Below uri root rest)
    (host : LocalHost) :
    host.ownUri uri root = { host.uri.replace rest with query := uri.query } := by
  rw [ownUri, below.drop_eq]

theorem Below.subset {uri root : Uri} {rest : List String} (below : Below uri root rest) :
    ∀ segment ∈ rest, segment ∈ uri.segments := by
  obtain ⟨front, segments, _⟩ := below.segments
  intro segment member
  rw [segments]
  exact List.mem_append_right front member

/-! ### The URI on the host -/

/-- **Says which URI on a host stands for one below an alias**, of which some segments are left. -/
structure StandsFor (host : LocalHost) (own uri : Uri) (rest : List String) : Prop where
  scheme : own.scheme = Uri.localScheme
  authority : own.authority = host.uri.authority
  query : own.query = uri.query
  /-- The segments are written, and dots among them followed. -/
  segments : own.segments = (Uri.follow [] (rest.map Uri.written)).filter (· ≠ "")
  kept : own.segments = rest ↔ ∀ segment ∈ rest, Uri.Settled segment
  hierarchy : uri.scheme ≠ "file" → uri.isLiteral = false → own.segments = rest
  /-- Who calls by the URI from outside is answered with the access of everyone. -/
  answers : ∀ {σ : Type} (dispatcher : Dispatcher σ) (plug : Plug σ) verb request limit,
    plug.uri = uri → dispatcher.answerer plug verb own request limit = do
      let response ← dispatcher.dispatch verb own request .anyone
      return .ok response

/-- **Says which URI is asked directly** as one on a host is asked for a URI below an alias: it is
read from the name of the host with the segments and the query, and the requests come to the same. -/
structure IsDirect (host : LocalHost) (direct own : Uri) : Prop where
  read : Uri.parse (Uri.directText host.name own.segments own.query) = .ok direct
  segments : direct.segments = own.segments
  query : direct.query = own.query
  alike : ∀ {σ : Type} (dispatcher : Dispatcher σ) verb request granted,
    (dispatcher.gate verb own request granted).1.Alike
        (dispatcher.gate verb direct request granted).1 ∧
      (dispatcher.gate verb own request granted).2 = (dispatcher.gate verb direct request granted).2

theorem ofName_eq {name : String} {host : LocalHost} (named : ofName name = .ok host) :
    Uri.parse (Uri.localScheme ++ "://" ++ host.name ++ "/") = .ok host.uri ∧
      host.aliases = [] := by
  unfold ofName at named
  dsimp only at named
  split at named
  · rename_i uri read
    cases named
    exact ⟨read, rfl⟩
  · cases named

theorem foldl_addAlias (host : LocalHost) (aliases : List Uri) :
    aliases.foldl addAlias host = { host with aliases := host.aliases ++ aliases } := by
  induction aliases generalizing host with
  | nil => simp
  | cons root rest ih =>
    rw [List.foldl_cons, ih]
    simp [addAlias]

section Named

variable {name : String} {host : LocalHost} (named : ofName name = .ok host) {uri root : Uri}
  {rest : List String}

include named

theorem noWeb_of_ofName : Uri.isWebScheme host.uri.scheme = false := by
  rw [(Uri.of_parse_root (ofName_eq named).1).1]
  decide

theorem standsFor_ownUri (made : uri.Made) (outside : uri.isLocal = false)
    (below : Below uri root rest) : StandsFor host (host.ownUri uri root) uri rest := by
  obtain ⟨isLocal, hierarchy⟩ := Uri.of_parse_root (ofName_eq named).1
  have noWeb := noWeb_of_ofName named
  have own := below.ownUri_eq host
  have given : ∀ segment ∈ rest, segment ≠ "" := fun segment member =>
    (Uri.of_mem_segments (below.subset segment member)).1
  have single : ∀ segment ∈ rest, '/' ∉ segment.toList := fun segment member =>
    (Uri.of_mem_segments (below.subset segment member)).2
  have segments : (host.ownUri uri root).segments
      = (Uri.follow [] (rest.map Uri.written)).filter (· ≠ "") := by
    rw [own, ← Uri.segments_replace hierarchy noWeb single]
    rfl
  have kept : (host.ownUri uri root).segments = rest ↔ ∀ segment ∈ rest, Uri.Settled segment := by
    rw [segments]
    exact Uri.follow_eq_self_iff given single
  refine ⟨?_, ?_, rfl, segments, kept, ?_, ?_⟩
  · rw [own, Uri.replace_eq hierarchy noWeb]
    exact isLocal
  · rw [own, Uri.replace_eq hierarchy noWeb]
  · intro noFile isHierarchy
    apply kept.mpr
    intro segment member
    exact made.sound.settled noFile isHierarchy segment
      (below.subset segment member)
  · intro σ dispatcher plug verb request limit isPlug
    have granted : Endpoint.grantedTo plug.uri = .anyone := by
      rw [isPlug, Endpoint.grantedTo, outside]
      rfl
    rw [← granted]
    rfl

/-- The URI on the host is asked like the text of its parts, and is the URI of that text if all
segments are kept. -/
theorem exists_direct (isName : Uri.IsHostName host.name) (made : uri.Made)
    (outside : uri.isLocal = false) (below : Below uri root rest) :
    ∃ direct, IsDirect host direct (host.ownUri uri root) ∧
      ((host.ownUri uri root).segments = rest → direct = host.ownUri uri root) := by
  obtain ⟨isRoot, -⟩ := ofName_eq named
  obtain ⟨isLocal, hierarchy⟩ := Uri.of_parse_root isRoot
  have noWeb := noWeb_of_ofName named
  have stands := standsFor_ownUri named made outside below
  have own := below.ownUri_eq host
  generalize host.ownUri uri root = asked at stands own ⊢
  have sound : asked.Sound := by
    rw [own]
    exact (((Uri.Made.parse isRoot).withPath _).withQueryOf made).sound
  have noFile : asked.scheme ≠ "file" := by
    rw [stands.scheme]
    decide
  have isHierarchy : asked.isLiteral = false := by
    rw [own, Uri.replace_eq hierarchy noWeb]
    rfl
  have settled := sound.settled noFile isHierarchy
  have read := Uri.parse_direct isName isRoot settled sound.query
  have segments : Uri.segments { host.uri with
      path := .segments (if asked.segments = [] then [""] else asked.segments)
      query := asked.query } = asked.segments :=
    Uri.segments_of_filled rfl (fun item member => (Uri.of_mem_segments member).1)
      (fun item member => (Uri.of_mem_segments member).2)
  refine ⟨_, ⟨read, segments, rfl, fun dispatcher verb request granted =>
    dispatcher.gate_alike verb segments.symm rfl request granted⟩, fun kept => ?_⟩
  have isSettled := stands.kept.mp kept
  rw [kept, stands.query, own, Uri.replace_settled hierarchy noWeb isSettled]

end Named

/-- A URI that is not local is served by the first alias that it lies below. -/
theorem score_of_outside {host : LocalHost} {uri : Uri} (outside : uri.isLocal = false) :
    host.score uri = (host.ownUri? uri).map fun own => (Endpoint.forcedScore, own) := by
  unfold score isNamedBy
  rw [outside, Bool.false_and]
  rfl

/-- **Aliases are transparent.** A URI from outside that lies below no alias has no score. Otherwise
the score is forced and goes with a URI on the host, which stands for what is left after the first
alias that the URI lies below, and which is asked like the text of the host's name with the same
segments and query; it is the URI of that text if all segments are kept, and they are kept just if
they are settled. -/
theorem alias_transparent {name : String} {start : LocalHost} (named : ofName name = .ok start)
    (aliases : List Uri) {uri : Uri} (made : uri.Made) (outside : uri.isLocal = false) :
    ((∀ root ∈ aliases, ∀ rest, ¬ Below uri root rest) →
      (aliases.foldl addAlias start).score uri = none) ∧
    ∀ before root after rest, aliases = before ++ root :: after →
      (∀ other ∈ before, ∀ rest, ¬ Below uri other rest) → Below uri root rest →
      ∃ own, (aliases.foldl addAlias start).score uri = some (Endpoint.forcedScore, own) ∧
        StandsFor start own uri rest ∧
        (Uri.IsHostName start.name → ∃ direct, IsDirect start direct own ∧
          (own.segments = rest → direct = own)) := by
  have served : (aliases.foldl addAlias start).score uri
      = ((aliases.find? (liesBelow uri)).map (start.ownUri uri)).map
        fun own => (Endpoint.forcedScore, own) := by
    rw [score_of_outside outside, foldl_addAlias, (ofName_eq named).2, List.nil_append]
    rfl
  have isMissed : ∀ root : Uri, (∀ rest, ¬ Below uri root rest) → ¬ liesBelow uri root = true := by
    intro root missed lies
    obtain ⟨rest, below⟩ := liesBelow_iff.mp lies
    exact missed rest below
  rw [served]
  constructor
  · intro missed
    have none : aliases.find? (liesBelow uri) = none :=
      List.find?_eq_none.mpr fun root member => isMissed root (missed root member)
    rw [none]
    rfl
  · intro before root after rest isList missed below
    have first : aliases.find? (liesBelow uri) = some root := by
      apply List.find?_eq_some_iff_append.mpr
      refine ⟨liesBelow_iff.mpr ⟨rest, below⟩, before, after, isList, fun other member => ?_⟩
      simpa using isMissed other (missed other member)
    rw [first]
    exact ⟨start.ownUri uri root, rfl, standsFor_ownUri named made outside below,
      fun isName => exists_direct named isName made outside below⟩

/-! ### An application behind an alias -/

/-- A page of a host. -/
def page (scheme host : String) (items : List String) (query : Option String) : Uri :=
  { scheme, dotted := false, path := .segments items, query, fragment := none
    authority := some { username := "", password := "", host, port := none } }

/-- The host of an application. -/
def appHost : LocalHost := { name := "app", uri := page "local" "app" [""] none, aliases := [] }

/-- What an application serves below an alias is the page of the application itself. -/
theorem app_serves_users :
    Uri.parse "http://API.example.com/V1/users/1?full=true"
      = .ok (page "http" "api.example.com" ["V1", "users", "1"] (some "full=true")) ∧
    ∃ own, ([page "http" "api.example.com" ["v1"] none].foldl addAlias appHost).score
        (page "http" "api.example.com" ["V1", "users", "1"] (some "full=true"))
      = some (Endpoint.forcedScore, own) ∧
      Uri.parse "local://app/users/1?full=true" = .ok own ∧ IsDirect appHost own own := by
  have named : ofName "App" = .ok appHost := by decide +kernel
  have read : Uri.parse "http://API.example.com/V1/users/1?full=true"
      = .ok (page "http" "api.example.com" ["V1", "users", "1"] (some "full=true")) := by
    decide +kernel
  have below : Below (page "http" "api.example.com" ["V1", "users", "1"] (some "full=true"))
      (page "http" "api.example.com" ["v1"] none) ["users", "1"] :=
    ⟨by decide +kernel, by decide +kernel, by decide +kernel,
      ⟨["V1"], by decide +kernel, by decide +kernel⟩⟩
  obtain ⟨own, scored, stands, asked⟩ := (alias_transparent named
    [page "http" "api.example.com" ["v1"] none] (.parse read) (by decide +kernel)).2
    [] _ [] ["users", "1"] rfl (fun _ absent => nomatch absent) below
  have isName : Uri.IsHostName appHost.name := by
    have chars : appHost.name.toList = ['a', 'p', 'p'] := by decide
    unfold Uri.IsHostName
    rw [chars]
    simp
  have kept : own.segments = ["users", "1"] := stands.hierarchy (by decide) rfl
  obtain ⟨direct, isDirect, same⟩ := asked isName
  obtain rfl := same kept
  have text : Uri.directText appHost.name direct.segments direct.query
      = "local://app/users/1?full=true" := by
    rw [kept, stands.query]
    decide
  exact ⟨read, direct, scored, text ▸ isDirect.read, isDirect⟩

/-- A list of mails, which is no hierarchy. -/
def mails (text : String) : Uri :=
  { scheme := "mail", authority := none, dotted := false, path := .literal text, query := none
    fragment := none }

/-- The host of an application whose name goes on as a path. -/
def deepHost : LocalHost :=
  { name := "app/deep", uri := page "local" "app" ["deep", ""] none, aliases := [] }

/-- **Dots that a URI without a hierarchy has as segments** are lost below an alias of it. And a name
that goes on as a path is no host of which a text would be asked alike. -/
theorem mails_lose_dots :
    (Uri.parse "mail:list" = .ok (mails "list") ∧
      Uri.parse "mail:list/users/../orders" = .ok (mails "list/users/../orders") ∧
      (mails "list/users/../orders").isLocal = false ∧
      Below (mails "list/users/../orders") (mails "list") ["users", "..", "orders"] ∧
      ofName "app" = .ok appHost ∧
      ∃ own, ([mails "list"].foldl addAlias appHost).score (mails "list/users/../orders")
          = some (Endpoint.forcedScore, own) ∧
        own.segments = ["orders"] ∧ own.segments ≠ ["users", "..", "orders"]) ∧
    ofName "app/deep" = .ok deepHost ∧
    ∃ own direct, ([page "http" "api.example.com" ["v1"] none].foldl addAlias deepHost).score
        (page "http" "api.example.com" ["v1", "users"] none)
      = some (Endpoint.forcedScore, own) ∧ own.segments = ["users"] ∧
      Uri.parse "local://app/deep/users" = .ok direct ∧ direct.segments = ["deep", "users"] := by
  have below : Below (mails "list/users/../orders") (mails "list") ["users", "..", "orders"] :=
    ⟨by decide +kernel, by decide +kernel, by decide +kernel,
      ⟨["list"], by decide +kernel, by decide +kernel⟩⟩
  refine ⟨⟨by decide +kernel, by decide +kernel, by decide +kernel, below, by decide +kernel,
    page "local" "app" ["orders"] none, ?_, ?_, ?_⟩, by decide +kernel,
    page "local" "app" ["users"] none, page "local" "app" ["deep", "users"] none, ?_, ?_, ?_, ?_⟩
  · decide +kernel
  · decide +kernel
  · decide +kernel
  · decide +kernel
  · decide +kernel
  · decide +kernel
  · decide +kernel

end LocalHost

end Switchboard
