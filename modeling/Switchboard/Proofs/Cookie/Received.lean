import Switchboard.Proofs.Cookie.Attributes
import Switchboard.Proofs.Cookie.History
/-!
Where the cookies of a jar came from.

A response may name the domain of a cookie, and the last `Domain` attribute counts. Without one the
cookie belongs to the host of the URI that the response came from. With one it belongs to the host
that is named: nobody asks whether that host has to do with the one that names it.

* `Cookie.namedDomain?` is the domain that a field names.
* `Cookie.addressed_of_ofSetCookie?` says whom the cookie of a field belongs to.
* `Jar.holds_what_is_addressed`: a cookie is for the hosts that it was addressed to, in every jar
  that is filled with received cookies.
-/

namespace Switchboard

namespace Uri

theorem host?_trimLiteral (uri : Uri) : uri.trimLiteral.host? = uri.host? := by
  unfold trimLiteral
  split <;> rfl

theorem host?_withPath (uri : Uri) (text : String) : (uri.withPath text).host? = uri.host? := by
  unfold withPath
  split
  · split <;> rfl
  · rfl

end Uri

namespace Cookie

@[simp] theorem host?_scopeAt (uri : Uri) (path : String) :
    (scopeAt uri path).host? = uri.host? := by
  unfold scopeAt Uri.withoutFragment Uri.withoutQuery
  rw [Uri.host?_trimLiteral, ← Uri.host?_withPath uri path]
  exact Uri.host?_trimLiteral _

/-! ### Domains -/

/-- The domain that an attribute names. -/
def domainNamed? (text : String) : Option String :=
  match Text.splitOnce '=' text with
  | some (key, value) =>
    if Text.lower (Text.trim key) = "domain" ∧ Text.trim value ≠ "" then
      some (Text.lower (String.ofList ((Text.trim value).toList.dropWhile (· == '.'))))
    else none
  | none => none

/-- The domain that a field names: what its last `Domain` attribute says. -/
def namedDomain? (field : String) : Option String :=
  ((Text.split ';' field).tail.filterMap domainNamed?).getLast?

/-- **Whom a field of a response addresses**: the URI that the response came from, with the host
that the field names if it names one. -/
structure Addressed (field : String) (source place : Uri) : Prop where
  unnamed : namedDomain? field = none → place = source
  named : ∀ domain, namedDomain? field = some domain → source.withHost domain = .ok place

theorem domain_add (attributes : Attributes) (text : String) :
    (attributes.add text).domain = ((domainNamed? text).map some).getD attributes.domain := by
  have blank : Text.trim "" = "" := by decide
  unfold Attributes.add domainNamed?
  cases Text.splitOnce '=' text with
  | none =>
    simp only [Option.getD_none, blank, ne_eq, not_true_eq_false, and_false, if_false,
      Option.map_none]
    repeat' split
    all_goals rfl
  | some parts =>
    obtain ⟨key, value⟩ := parts
    by_cases names : Text.lower (Text.trim key) = "domain" ∧ Text.trim value ≠ ""
    · simp only [Option.getD_some, if_pos names, Option.map_some]
    · simp only [Option.getD_some, if_neg names, Option.map_none, Option.getD_none]
      repeat' split
      all_goals rfl

/-- Of several attributes the last one that names a domain counts. -/
theorem domain_attributesOf (field : String) : (attributesOf field).domain = namedDomain? field := by
  rw [attributesOf, foldl_add domain_add, ← List.map_filterMap, List.getLast?_map, namedDomain?]
  cases ((Text.split ';' field).tail.filterMap domainNamed?).getLast? <;> rfl

/-- The scope that attributes ask for has the host that they name, or that of the source. -/
theorem host?_of_scope? {attributes : Attributes} {source : Uri} {scope : Option Uri}
    (read : attributes.scope? source = some scope) : ∃ place,
      (attributes.domain = none → place = source) ∧
      (∀ domain, attributes.domain = some domain → source.withHost domain = .ok place) ∧
      (scope.getD (defaultScope source)).host? = place.host? := by
  unfold Attributes.scope? at read
  cases named : attributes.domain with
  | none =>
    refine ⟨source, fun _ => rfl, nofun, ?_⟩
    rw [named] at read
    cases path : attributes.path with
    | none =>
      rw [path] at read
      rw [← Option.some.inj read]
      exact host?_scopeAt source _
    | some path' =>
      rw [path] at read
      rw [← Option.some.inj read]
      exact host?_scopeAt source _
  | some domain =>
    rw [named] at read
    obtain ⟨place, taken, same⟩ := Option.map_eq_some_iff.mp read
    refine ⟨place, nofun, fun other isNamed => ?_, ?_⟩
    · rw [← Option.some.inj isNamed]
      cases host : source.withHost domain with
      | error fault => simp [host, Except.toOption] at taken
      | ok uri =>
        rw [host] at taken
        rw [Option.some.inj taken]
    · rw [← same]
      exact host?_scopeAt place _

/-- **A cookie belongs to whom its field addresses**, once a jar has given it a scope. -/
theorem addressed_of_ofSetCookie? {field : String} {source : Uri} {now : Int} {cookie : Cookie}
    (read : ofSetCookie? field source now = some cookie) :
    ∃ place, Addressed field source place ∧
      (Jar.withScope source cookie).domain? = place.host? := by
  obtain ⟨_, _, scope, _, _, asked, rfl⟩ := ofSetCookie?_eq_some_iff.mp read
  obtain ⟨place, unnamed, named, host⟩ := host?_of_scope? asked
  rw [domain_attributesOf] at unnamed named
  refine ⟨place, ⟨unnamed, named⟩, ?_⟩
  rw [← host]
  cases scope <;> rfl

end Cookie

namespace Jar

open Cookie

/-! ### Jars of received cookies -/

/-- Nothing is written to a jar but cookies that were read from fields of responses. -/
def OnlyReceived (history : History) : Prop :=
  ∀ entry ∈ history, ∀ cookies source, entry.2 = .update cookies source →
    ∀ cookie ∈ cookies, ∃ field moment, ofSetCookie? field source moment = some cookie

/-- A cookie was written to a jar because a response from a URI had a field. -/
def SentBy (history : History) (cookie : Cookie) (source : Uri) (field : String) : Prop :=
  ∃ entry ∈ history, ∃ cookies, entry.2 = .update cookies source ∧
    ∃ sent ∈ cookies, cookie = withScope source sent ∧
      ∃ moment, ofSetCookie? field source moment = some sent

variable {history : History} {cookie : Cookie} {source uri place : Uri} {field : String} {now : Int}

theorem exists_sentBy_of_mem_run (received : OnlyReceived history)
    (member : cookie ∈ (empty.run history).cookies) : ∃ source field,
      SentBy history cookie source field := by
  obtain ⟨entry, isEntry, cookies, source, call, sent, isSent, same⟩ :=
    exists_update_of_mem_written (mem_written_of_mem_run member)
  obtain ⟨field, moment, read⟩ := received entry isEntry cookies source call sent isSent
  exact ⟨source, field, entry, isEntry, cookies, call, sent, isSent, same, moment, read⟩

theorem SentBy.addressed (sentBy : SentBy history cookie source field) :
    ∃ place, Addressed field source place ∧ cookie.domain? = place.host? := by
  obtain ⟨_, _, _, _, sent, _, rfl, _, read⟩ := sentBy
  exact addressed_of_ofSetCookie? read

/-- The host of a URI that a cookie is given for is one that the cookie belongs to. -/
theorem hostsAgree_of_mem_fetch {jar : Jar} (given : cookie.scope.isSome = true)
    (host : cookie.domain? = place.host?) (member : cookie ∈ (jar.fetch uri now).1) :
    HostsAgree place uri := by
  obtain ⟨scope, isScope⟩ := Option.isSome_iff_exists.mp given
  have sent := (List.mem_filter.mp (List.mem_mergeSort.mp member)).2
  obtain ⟨-, -, agree, -⟩ := (matchesUri_iff isScope).mp sent
  have same : place.host? = scope.host? := by
    rw [← host, domain?, isScope]
    rfl
  unfold HostsAgree
  rwa [same]

/-- **A jar of received cookies gives a cookie to the hosts that its sender addressed.** If the
field names no domain these are the host of the sender and those below it. So a cookie comes to
other hosts only if its field names a domain, which may be any domain. -/
theorem holds_what_is_addressed (history : History) (received : OnlyReceived history) :
    (∀ cookie ∈ (empty.run history).cookies, ∃ source field,
      SentBy history cookie source field) ∧
    ∀ cookie source field, SentBy history cookie source field →
      ∃ place, Addressed field source place ∧ cookie.domain? = place.host? ∧
        ∀ uri now, cookie ∈ ((empty.run history).fetch uri now).1 → HostsAgree place uri := by
  refine ⟨fun cookie member => exists_sentBy_of_mem_run received member, ?_⟩
  intro cookie source field sentBy
  obtain ⟨place, addressed, host⟩ := sentBy.addressed
  have given : cookie.scope.isSome = true := by
    obtain ⟨_, _, _, _, sent, _, rfl, _⟩ := sentBy
    exact isSome_scope_withScope source sent
  exact ⟨place, addressed, host, fun uri now member => hostsAgree_of_mem_fetch given host member⟩

theorem onlyReceived_readAll (fields : List String) (source : Uri) (read now : Int) :
    OnlyReceived [(now, .update (readAll fields source read) source)] := by
  intro entry isEntry cookies source' call cookie isSent
  rw [List.mem_singleton.mp isEntry] at call
  cases call
  obtain ⟨field, -, isRead⟩ := List.mem_filterMap.mp isSent
  exact ⟨field, read, isRead⟩

theorem sentBy_readAll {fields : List String} {sent : Cookie} {read now : Int}
    (member : field ∈ fields) (isRead : ofSetCookie? field source read = some sent) :
    SentBy [(now, .update (readAll fields source read) source)] (withScope source sent) source
      field :=
  ⟨_, List.mem_singleton_self _, _, rfl, sent, List.mem_filterMap.mpr ⟨field, member, isRead⟩, rfl,
    read, isRead⟩

/-! ### Letters -/

/-- A host and its root. -/
def houseOf (host : String) : Uri :=
  { scheme := "http", dotted := false, path := .segments [""], query := none, fragment := none
    authority := some { username := "", password := "", host, port := none } }

/-- A letter by which a stranger sends two cookies, one of them for somebody else. -/
def letters : History :=
  [(0, .update (readAll ["own=1", "sid=2; Domain=bank.example"] (houseOf "stranger.example") 0)
    (houseOf "stranger.example"))]

/-- The cookie that names nobody comes to the stranger only. -/
theorem letters_hold_what_is_addressed : ∃ own, own.name = "own" ∧
    SentBy letters own (houseOf "stranger.example") "own=1" ∧
    ∀ uri now, own ∈ ((empty.run letters).fetch uri now).1 →
      HostsAgree (houseOf "stranger.example") uri := by
  have isRead : ofSetCookie? "own=1" (houseOf "stranger.example") 0 = some (ofPair "own" "1") := by
    decide +kernel
  have unnamed : namedDomain? "own=1" = none := by decide +kernel
  have sentBy : SentBy letters (withScope (houseOf "stranger.example") (ofPair "own" "1"))
      (houseOf "stranger.example") "own=1" := sentBy_readAll (by simp) isRead
  obtain ⟨place, addressed, -, comesTo⟩ :=
    (holds_what_is_addressed letters (onlyReceived_readAll _ _ _ _)).2 _ _ _ sentBy
  rw [addressed.unnamed unnamed] at comesTo
  exact ⟨_, rfl, sentBy, comesTo⟩

theorem not_hostsAgree_houseOf {one other : String} (named : one ≠ "") (named' : other ≠ "")
    (foreign : hostCovers one other = false) : ¬ HostsAgree (houseOf one) (houseOf other) := by
  rintro (⟨absent, -⟩ | ⟨domain, host, isDomain, isHost, within⟩)
  · simp [houseOf, Uri.host?, named] at absent
  · simp only [houseOf, Uri.host?, if_neg named, if_neg named', Option.some.injEq]
      at isDomain isHost
    rw [← isDomain, ← isHost, ← hostCovers_iff, foreign] at within
    cases within

/-- **The cookie that names the bank comes to the bank**, which has nothing to do with the
stranger. -/
theorem letters_come_to_the_bank : OnlyReceived letters ∧
    ∃ cookie ∈ ((empty.run letters).fetch (houseOf "bank.example") 0).1,
      SentBy letters cookie (houseOf "stranger.example") "sid=2; Domain=bank.example" ∧
      ∃ scope, cookie.scope = some scope ∧ ¬ HostsAgree scope (houseOf "stranger.example") ∧
        ¬ HostsAgree (houseOf "stranger.example") (houseOf "bank.example") := by
  have isRead : ofSetCookie? "sid=2; Domain=bank.example" (houseOf "stranger.example") 0
      = some { ofPair "sid" "2" with scope := some (houseOf "bank.example") } := by
    decide +kernel
  have given : ((empty.run letters).fetch (houseOf "bank.example") 0).1
      = [{ ofPair "sid" "2" with scope := some (houseOf "bank.example") }] := by
    decide +kernel
  refine ⟨onlyReceived_readAll _ _ _ _, _, given ▸ List.mem_singleton_self _, ?_, _, rfl, ?_, ?_⟩
  · exact sentBy_readAll (by simp) isRead
  · exact not_hostsAgree_houseOf (by decide) (by decide) (by decide)
  · exact not_hostsAgree_houseOf (by decide) (by decide) (by decide)

end Jar

end Switchboard
