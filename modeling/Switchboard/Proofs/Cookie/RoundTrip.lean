import Switchboard.Proofs.Cookie.Pairs
import Switchboard.Proofs.Cookie.Rebased
import Switchboard.Proofs.Cookie.Received
import Switchboard.Proofs.Number.Decimal
import Switchboard.Proofs.Time.Calendar
import Switchboard.Proofs.Uri.Hosts
import Switchboard.Proofs.Uri.Reread
/-!
Cookies that are sent and received.

A response writes a cookie into a header field, and who asked reads the field. The cookie comes back
with all that it had but its scope: of that only host and path are written, and they are read once
more on top of the URI that was asked. So the scope comes back just if the scheme of that URI reads
host and path as they are.

* `Cookie.Sendable` says which cookies a URI can set.
* `Cookie.set_and_received`: such a cookie is received, and in the same slot just if its scope is
  read as it is.
-/

namespace Switchboard

open Text

namespace Uri

/-- Says that a URI takes the host of a scope as it is. -/
def TakesHost (uri scope : Uri) : Prop :=
  isWebScheme uri.scheme = true → ∀ host ∈ scope.host?, Host.OfWeb host

/-- Says that a URI takes the path of a scope as it is. -/
def TakesPath (uri scope : Uri) : Prop :=
  ∀ items, scope.path = .segments items → Rereads uri.scheme items

/-- **Says that a URI can be asked for a scope**: the scope has a host that the URI takes in some
way, and neither its host nor its path breaks a header field. -/
structure Reaches (uri scope : Uri) : Prop where
  made : Made scope
  host : ∃ host, scope.host? = some host ∧ host.toList.head? ≠ some '.' ∧ ';' ∉ host.toList ∧
    ∃ place, uri.withHost (lower host) = .ok place
  path : scope.pathText.toList.head? = some '/' ∧ ';' ∉ scope.pathText.toList

end Uri

namespace Cookie

/-- **Says that a URI can set a cookie.** -/
structure Sendable (cookie : Cookie) (source : Uri) : Prop where
  neat : cookie.Neat
  unquoted : cookie.value.toList.head? ≠ some '"' ∧ cookie.value.toList.getLast? ≠ some '"'
  dated : ∀ moment ∈ cookie.expires, 0 ≤ moment ∧ moment < Calendar.tooLate
  scope : ∀ scope ∈ cookie.scope, source.Reaches scope

/-- Says that a cookie came back with all that it had but its scope, and with a scope if it had
one. -/
structure Returns (cookie received : Cookie) : Prop where
  name : received.name = cookie.name
  value : received.value = cookie.value
  expires : received.expires = cookie.expires
  secure : received.secure = cookie.secure
  httpOnly : received.httpOnly = cookie.httpOnly
  scope : received.scope.isSome = cookie.scope.isSome

/-! ### What a field says -/

/-- Says what pair and which attributes a field has. -/
structure Tells (field pair : String) (attributes : Attributes) : Prop where
  pair : pairPart field = pair
  attributes : attributesOf field = attributes

section Tells

variable {field pair text value : String} {attributes : Attributes}

theorem tells_pair (free : ';' ∉ pair.toList) : Tells pair pair Attributes.unset := by
  have alone : split ';' pair = [pair] := by
    rw [split, splitOn_of_not_mem free, List.map_singleton, String.ofList_toList]
  refine ⟨?_, ?_⟩
  · rw [pairPart, alone]
    rfl
  · rw [attributesOf, alone]
    rfl

/-- One more attribute. -/
theorem Tells.add (tells : Tells field pair attributes) (free : ';' ∉ text.toList) :
    Tells (field ++ (";" ++ text)) pair (attributes.add text) := by
  rw [← String.append_assoc]
  exact ⟨(pairPart_append free field).trans tells.pair,
    (attributesOf_append free field).trans (congrArg (Attributes.add · text) tells.attributes)⟩

/-- The parts of an attribute with a value. -/
theorem attributeParts_pair {key : String} (free : '=' ∉ key.toList) (value : String) :
    attributeParts (key ++ ("=" ++ value)) = (lower (trim key), trim value) := by
  have text : (key ++ ("=" ++ value)).toList = key.toList ++ '=' :: value.toList := by simp
  rw [attributeParts, splitOnce, text, cutAt_append free]
  simp

/-- An attribute with a value says what its name and the trimmed value say. -/
theorem Tells.addPair (tells : Tells field pair attributes) {next : Attributes} (key : String)
    {mark : String} (isMark : mark = ";" ++ key ++ "=")
    (keyFree : ';' ∉ key.toList ∧ '=' ∉ key.toList)
    (free : ';' ∉ value.toList) (trimmed : trim value = value)
    (adds : ∀ text, attributeParts text = (lower (trim key), value) → attributes.add text = next) :
    Tells (field ++ (mark ++ value)) pair next := by
  have parts : attributeParts (key ++ ("=" ++ value)) = (lower (trim key), value) := by
    rw [attributeParts_pair keyFree.2, trimmed]
  have freeText : ';' ∉ (key ++ ("=" ++ value)).toList := by
    simp [keyFree.1, free]
  have added := tells.add freeText
  rw [adds _ parts] at added
  rw [isMark, String.append_assoc, String.append_assoc]
  exact added

theorem Tells.domain (tells : Tells field pair attributes) {host : String} (given : host ≠ "")
    (trimmed : trim host = host) (free : ';' ∉ host.toList)
    (noPoint : host.toList.head? ≠ some '.') :
    Tells (field ++ ("; Domain=" ++ host)) pair
      { attributes with domain := some (lower host) } := by
  refine tells.addPair " Domain" (by decide) (by decide) free trimmed fun text parts => ?_
  have isKey : lower (trim " Domain") = "domain" := by decide
  have undropped : host.toList.dropWhile (· == '.') = host.toList := by
    cases chars : host.toList with
    | nil => rfl
    | cons c rest =>
      rw [chars] at noPoint
      have isNoPoint : c ≠ '.' := fun isPoint => noPoint (congrArg some isPoint)
      exact List.dropWhile_cons_of_neg (by simpa using isNoPoint)
  rw [isKey] at parts
  rw [add_eq parts, if_pos ⟨rfl, given⟩, undropped, String.ofList_toList]

theorem Tells.path (tells : Tells field pair attributes) {path : String}
    (trimmed : trim path = path) (free : ';' ∉ path.toList)
    (rooted : path.toList.head? = some '/') :
    Tells (field ++ ("; Path=" ++ path)) pair { attributes with path := some path } := by
  refine tells.addPair " Path" (by decide) (by decide) free trimmed fun text parts => ?_
  have isKey : lower (trim " Path") = "path" := by decide
  rw [isKey] at parts
  rw [add_eq parts, if_neg (by simp), if_pos ⟨rfl, rooted⟩]

theorem Tells.expires (tells : Tells field pair attributes) {moment : Int} {date : String}
    (rendered : Calendar.render? moment = some date) :
    Tells (field ++ ("; Expires=" ++ date)) pair { attributes with expires := some moment } := by
  obtain ⟨read, trimmed, free⟩ := Calendar.read?_of_render? rendered
  refine tells.addPair " Expires" (by decide) (by decide) free trimmed fun text parts => ?_
  have isKey : lower (trim " Expires") = "expires" := by decide
  rw [isKey] at parts
  rw [add_eq parts, if_neg (by simp), if_neg (by simp), if_pos rfl, read]

theorem Tells.secure (tells : Tells field pair attributes) (unset : attributes.secure = false)
    (given : Bool) : Tells (field ++ if given then "; Secure" else "") pair
      { attributes with secure := given } := by
  cases given with
  | false =>
    rw [if_neg Bool.false_ne_true, String.append_empty, ← unset]
    exact tells
  | true =>
    have parts : attributeParts " Secure" = ("secure", "") := by decide
    have added := tells.add (by decide : ';' ∉ " Secure".toList)
    rwa [add_eq parts] at added

theorem Tells.httpOnly (tells : Tells field pair attributes) (unset : attributes.httpOnly = false)
    (given : Bool) : Tells (field ++ if given then "; HttpOnly" else "") pair
      { attributes with httpOnly := given } := by
  cases given with
  | false =>
    rw [if_neg Bool.false_ne_true, String.append_empty, ← unset]
    exact tells
  | true =>
    have parts : attributeParts " HttpOnly" = ("httponly", "") := by decide
    have added := tells.add (by decide : ';' ∉ " HttpOnly".toList)
    rwa [add_eq parts] at added

end Tells

/-! ### The field of a cookie -/

section Field

variable {cookie : Cookie} {source scope : Uri}

/-- What is written of the scope. -/
def scopeText (cookie : Cookie) : String :=
  (match cookie.domain? with
    | some domain => "; Domain=" ++ domain
    | none => "") ++ if cookie.scope.isSome then "; Path=" ++ cookie.path else ""

/-- What is written of the end, if it has a written form. -/
def endText? (cookie : Cookie) : Option String :=
  match cookie.expires with
  | some moment => (Calendar.render? moment).map ("; Expires=" ++ ·)
  | none => some ""

theorem setCookieText?_of_endText? {ending : String} (ends : cookie.endText? = some ending) :
    cookie.setCookieText? = some (cookie.pairText ++ cookie.scopeText ++ ending
      ++ (if cookie.secure then "; Secure" else "")
      ++ if cookie.httpOnly then "; HttpOnly" else "") := by
  unfold setCookieText?
  unfold endText? at ends
  cases isEnd : cookie.expires with
  | none =>
    rw [isEnd] at ends
    obtain rfl := Option.some.inj ends
    simp only [scopeText, String.append_assoc]
    rfl
  | some moment =>
    rw [isEnd] at ends
    simp only [ends, scopeText, String.append_assoc]
    rfl

/-- The segments of a scope that can be asked for. -/
theorem exists_items (reaches : source.Reaches scope) : ∃ items, scope.path = .segments items ∧
    items ≠ [] ∧ Uri.AllChars (Uri.Fit scope.scheme) items := by
  obtain ⟨host, given, -⟩ := reaches.host
  have hierarchy := reaches.made.isLiteral_of_host? given
  obtain ⟨items, path, fit⟩ := Uri.exists_fit_path reaches.made hierarchy
  refine ⟨items, path, ?_, fit⟩
  rintro rfl
  have rooted := reaches.path.1
  rw [Uri.pathText, path] at rooted
  cases rooted

theorem pathText_eq {items : List String} (path : scope.path = .segments items)
    (given : items ≠ []) : scope.pathText = Uri.pathOf items := by
  rw [Uri.pathText, path, Path.text, Uri.segmentsText_of_ne_nil given]

/-- No blanks are in what is read as a path. -/
theorem trim_pathText (reaches : source.Reaches scope) : trim scope.pathText = scope.pathText := by
  obtain ⟨items, path, given, fit⟩ := exists_items reaches
  have solid : ∀ c ∈ scope.pathText.toList, isBlank c = false := by
    intro c member
    rw [pathText_eq path given, Uri.pathOf, String.toList_append, Uri.toList_join] at member
    rcases List.mem_append.mp member with isSlash | inJoin
    · obtain rfl := List.mem_singleton.mp isSlash
      decide
    · rcases of_mem_joinWith inJoin with rfl | ⟨piece, isPiece, inPiece⟩
      · decide
      · obtain ⟨item, isItem, rfl⟩ := List.mem_map.mp isPiece
        have stays := (fit item isItem c inPiece).stays
        have solid : Percent.path c = false → isBlank c = false :=
          of_ascii (fun c => Percent.path c = false → isBlank c = false) (by decide +kernel)
            stays.1
        exact solid stays.2
  rw [trim, trimChars_of_forall solid, String.ofList_toList]

/-- What a field says once the scope has been written. -/
theorem tells_scope (sendable : cookie.Sendable source) :
    Tells (cookie.pairText ++ cookie.scopeText) cookie.pairText
      { Attributes.unset with
        domain := cookie.domain?.map lower, path := cookie.scope.map Uri.pathText } := by
  have pair := tells_pair sendable.neat.pairFree
  cases isScope : cookie.scope with
  | none =>
    have noText : cookie.scopeText = "" := by simp [scopeText, domain?, isScope]
    rw [noText, String.append_empty, domain?, isScope]
    exact pair
  | some scope =>
    have reaches := sendable.scope scope isScope
    obtain ⟨host, isHost, noPoint, free, -⟩ := reaches.host
    obtain ⟨text, read⟩ := reaches.made.exists_readHost isHost
    have domain := pair.domain (Uri.ne_empty_of_host? isHost)
      (Host.trim_of_shape (Uri.shape_of_readHost read).1) free noPoint
    have path := domain.path (trim_pathText reaches) reaches.path.2 reaches.path.1
    rw [String.append_assoc] at path
    simp only [scopeText, domain?, Cookie.path, isScope, Option.bind_some, isHost,
      Option.isSome_some, if_true, Option.map_some]
    exact path

/-- **What the field of a cookie says.** -/
theorem exists_tells (sendable : cookie.Sendable source) : ∃ field,
    cookie.setCookieText? = some field ∧ Tells field cookie.pairText
      { domain := cookie.domain?.map lower, path := cookie.scope.map Uri.pathText
        expires := cookie.expires, maxAge := none
        secure := cookie.secure, httpOnly := cookie.httpOnly } := by
  have afterScope := tells_scope sendable
  have ended : ∃ ending, cookie.endText? = some ending ∧
      Tells (cookie.pairText ++ cookie.scopeText ++ ending) cookie.pairText
        { Attributes.unset with
          domain := cookie.domain?.map lower, path := cookie.scope.map Uri.pathText
          expires := cookie.expires } := by
    unfold endText?
    cases isEnd : cookie.expires with
    | none => exact ⟨"", rfl, by rwa [String.append_empty]⟩
    | some moment =>
      obtain ⟨early, late⟩ := sendable.dated moment isEnd
      have rendered : Calendar.render? moment = some (Calendar.Date.ofMoment moment).text :=
        if_neg (by omega)
      exact ⟨_, congrArg (Option.map ("; Expires=" ++ ·)) rendered, afterScope.expires rendered⟩
  obtain ⟨ending, ends, afterEnd⟩ := ended
  exact ⟨_, setCookieText?_of_endText? ends,
    (afterEnd.secure rfl cookie.secure).httpOnly rfl cookie.httpOnly⟩

end Field

/-! ### The scope that is received -/

section Scope

variable {source scope place : Uri} {host : String}

/-- What is received of a scope, once the source took its host. -/
theorem scopeAt_place (made : Uri.Made source) {home : String} (hosted : source.host? = some home)
    (reaches : source.Reaches scope) (isHost : scope.host? = some host)
    (set : source.withHost (lower host) = .ok place) :
    ((scopeAt place scope.pathText).host?.map lower = scope.host?.map lower
        ↔ source.TakesHost scope) ∧
      ((scopeAt place scope.pathText).pathText = scope.pathText ↔ source.TakesPath scope) := by
  have hierarchy := made.isLiteral_of_host? hosted
  obtain ⟨text, read⟩ := reaches.made.exists_readHost isHost
  obtain ⟨found, isPlace, given, same⟩ := Uri.withHost_lower hierarchy
    (Uri.shape_of_readHost read).1 (Uri.ne_empty_of_host? isHost) set
  obtain ⟨items, path, filled, fit⟩ := exists_items reaches
  have placeMade : Uri.Made place := made.withHost set
  have placeHierarchy : place.isLiteral = false := by
    rw [isPlace]
    exact hierarchy
  refine ⟨?_, ?_⟩
  · have placeHost : place.host? = some found := by
      rw [isPlace]
      exact if_neg given
    rw [host?_scopeAt, placeHost, isHost, Option.map_some, Option.map_some, Option.some_inj, same,
      Uri.TakesHost, isHost]
    exact ⟨fun takes isWeb other isOther => Option.some.inj isOther ▸ takes isWeb,
      fun takes isWeb => takes isWeb host rfl⟩
  · rw [pathText_eq path filled, scopeAt_pathOf placeHierarchy]
    have sameScheme : place.scheme = source.scheme := by
      rw [isPlace]
      rfl
    have stay : Uri.AllChars (Percent.Stays Percent.path) items := fun item member c inItem =>
      (fit item member c inItem).stays
    have single : ∀ item ∈ items, '/' ∉ item.toList := fun item member slash =>
      (fit item member '/' slash).single rfl
    show (place.replace items).pathText = Uri.pathOf items ↔ _
    rw [Uri.pathText_replace_rereads placeMade placeHierarchy filled stay single, sameScheme,
      Uri.TakesPath, path]
    exact ⟨fun rereads others same => Path.segments.inj same ▸ rereads, fun takes => takes items rfl⟩

/-- The schemes of files apart, a URI takes the scopes of its kind: of the web or not. -/
theorem takes_of_kind (reaches : source.Reaches scope) (noFile : source.scheme ≠ "file")
    (noFileToo : scope.scheme ≠ "file")
    (kind : Uri.isWebScheme source.scheme = Uri.isWebScheme scope.scheme) :
    source.TakesHost scope ∧ source.TakesPath scope := by
  refine ⟨fun isWeb host isHost => ?_, fun items path => ?_⟩
  · obtain ⟨text, read⟩ := reaches.made.exists_readHost isHost
    exact (Uri.shape_of_readHost read).2 (kind ▸ isWeb)
  · exact reaches.made.rereads path noFile noFileToo kind

end Scope

section Received

variable {cookie : Cookie} {source : Uri}

theorem sameSlot_iff_place {received : Cookie} : cookie.sameSlot received = true ↔
    received.name = cookie.name ∧
      received.domain?.map lower = cookie.domain?.map lower ∧ received.path = cookie.path := by
  rw [sameSlot_iff, slot, slot, Slot.mk.injEq]
  exact ⟨fun ⟨name, host, path⟩ => ⟨name.symm, host.symm, path.symm⟩,
    fun ⟨name, host, path⟩ => ⟨name.symm, host.symm, path.symm⟩⟩

theorem sameSlot_of_scope {received : Cookie} (name : received.name = cookie.name)
    (scope : received.scope = cookie.scope) : cookie.sameSlot received = true :=
  sameSlot_iff_place.mpr
    ⟨name, by rw [domain?, domain?, scope], by rw [path, path, scope]⟩

/-- Quotes are stripped of a value that begins or ends with them alone. -/
theorem stripBoth_value (sendable : cookie.Sendable source) :
    stripBoth '"' (trim cookie.value) = cookie.value := by
  have noQuote : ∀ {end? : Option Char}, end? ≠ some '"' → ∀ c ∈ end?, (c == '"') = false := by
    intro end? unquoted c isEnd
    refine beq_eq_false_iff_ne.mpr fun isQuote => unquoted ?_
    rw [← isQuote]
    exact isEnd
  rw [sendable.neat.valueTrimmed, stripBoth,
    dropEndWhile_of_ends (noQuote sendable.unquoted.1) (noQuote sendable.unquoted.2),
    String.ofList_toList]

/-- What is received of a field that says the right things. -/
theorem ofSetCookie?_of_tells (sendable : cookie.Sendable source) {field : String}
    {attributes : Attributes} (tells : Tells field cookie.pairText attributes)
    {scope : Option Uri} (asked : attributes.scope? source = some scope) (now : Int) :
    ofSetCookie? field source now = some
      { name := cookie.name, value := cookie.value, scope, expires := attributes.ending now
        secure := attributes.secure, httpOnly := attributes.httpOnly } := by
  have neat := sendable.neat
  refine ofSetCookie?_eq_some_iff.mpr ⟨cookie.name, cookie.value, scope, ?_, ?_, ?_, ?_⟩
  · rw [tells.pair, neat.splitOnce_pairText]
  · rw [neat.nameTrimmed]
    exact neat.named
  · rw [tells.attributes, asked]
  · rw [tells.attributes, neat.nameTrimmed, stripBoth_value sendable]

end Received

/-- **A cookie that is set is received** with all that it has but its scope. Of this the host comes
back, up to the case of letters, just if the source takes it as it is, and so does the path. They do
if neither scheme is that of files and both are of the web or neither is. -/
theorem set_and_received {cookie : Cookie} {source : Uri} (now : Int) (made : Uri.Made source)
    {home : String} (hosted : source.host? = some home) (sendable : cookie.Sendable source) :
    ∃ field received, cookie.setCookieText? = some field ∧
      ofSetCookie? field source now = some received ∧ cookie.Returns received ∧
      (cookie.scope = none → cookie.sameSlot received = true) ∧
      ∀ scope ∈ cookie.scope, ∃ place ∈ received.scope,
        (place.host?.map lower = scope.host?.map lower ↔ source.TakesHost scope) ∧
        (place.pathText = scope.pathText ↔ source.TakesPath scope) ∧
        (cookie.sameSlot received = true ↔ source.TakesHost scope ∧ source.TakesPath scope) ∧
        (source.scheme ≠ "file" → scope.scheme ≠ "file" →
          Uri.isWebScheme source.scheme = Uri.isWebScheme scope.scheme →
          cookie.sameSlot received = true) := by
  obtain ⟨field, writes, tells⟩ := exists_tells sendable
  refine ⟨field, ?_⟩
  rw [domain?] at tells
  cases isScope : cookie.scope with
  | none =>
    rw [isScope] at tells
    exact ⟨_, writes, ofSetCookie?_of_tells sendable tells rfl now,
      ⟨rfl, rfl, rfl, rfl, rfl, congrArg Option.isSome isScope.symm⟩,
      fun _ => sameSlot_of_scope rfl isScope.symm, fun _ isNone =>
        (Option.not_mem_none _ isNone).elim⟩
  | some scope =>
    have reaches := sendable.scope scope isScope
    obtain ⟨host, isHost, -, -, place, set⟩ := reaches.host
    rw [isScope, Option.bind_some, isHost, Option.map_some, Option.map_some] at tells
    have asked : Attributes.scope?
        { domain := some (lower host), path := some scope.pathText, expires := cookie.expires
          maxAge := none, secure := cookie.secure, httpOnly := cookie.httpOnly } source
        = some (some (scopeAt place scope.pathText)) := by
      simp only [Attributes.scope?, set]
      rfl
    obtain ⟨sameHost, samePath⟩ := scopeAt_place made hosted reaches isHost set
    have sameSlot : cookie.sameSlot
        { name := cookie.name, value := cookie.value, scope := some (scopeAt place scope.pathText)
          expires := cookie.expires, secure := cookie.secure, httpOnly := cookie.httpOnly } = true
        ↔ source.TakesHost scope ∧ source.TakesPath scope := by
      rw [← sameHost, ← samePath, sameSlot_iff_place, domain?, domain?, path, path, isScope]
      exact ⟨And.right, fun same => ⟨rfl, same⟩⟩
    refine ⟨_, writes, ofSetCookie?_of_tells sendable tells asked now,
      ⟨rfl, rfl, rfl, rfl, rfl, by rw [isScope]; rfl⟩,
      fun isNone => (Option.some_ne_none scope isNone).elim, fun other isOther => ?_⟩
    obtain rfl := Option.some.inj isOther
    exact ⟨_, rfl, sameHost, samePath, sameSlot, fun noFile noFileToo kind =>
      sameSlot.mpr (takes_of_kind reaches noFile noFileToo kind)⟩

/-! ### Passes -/

/-- A pass for a place. -/
def pass (scope : Uri) : Cookie :=
  { name := "sid", value := "1", scope := some scope, expires := some 784111777
    secure := true, httpOnly := true }

theorem pass_sendable {source scope : Uri} (reaches : source.Reaches scope) :
    (pass scope).Sendable source where
  neat := {
    named := (by decide : "sid" ≠ "")
    nameTrimmed := (by decide : trim "sid" = "sid")
    nameFree := (by decide : '=' ∉ "sid".toList ∧ ';' ∉ "sid".toList)
    valueTrimmed := (by decide : trim "1" = "1")
    valueFree := (by decide : ';' ∉ "1".toList) }
  unquoted := (by decide : "1".toList.head? ≠ some '"' ∧ "1".toList.getLast? ≠ some '"')
  dated := fun _ isMoment => Option.some.inj isMoment ▸ by decide
  scope := fun _ isScope => Option.some.inj isScope ▸ reaches

theorem kiosk_reaches : (kiosk "https" "www.shop.example" [""]).Reaches
    (kiosk "https" "shop.example" ["app", "api"]) where
  made := .parse (show Uri.parse "https://shop.example/app/api" = _ by decide +kernel)
  host := ⟨"shop.example", by decide +kernel, by decide, by decide,
    kiosk "https" "shop.example" [""], by decide +kernel⟩
  path := by decide +kernel

/-- A pass of a shop comes back as it was. -/
theorem pass_returns :
    Uri.Made (kiosk "https" "www.shop.example" [""]) ∧
    (kiosk "https" "www.shop.example" [""]).host? = some "www.shop.example" ∧
    (pass (kiosk "https" "shop.example" ["app", "api"])).Sendable
      (kiosk "https" "www.shop.example" [""]) ∧
    ∃ field received,
      (pass (kiosk "https" "shop.example" ["app", "api"])).setCookieText? = some field ∧
      ofSetCookie? field (kiosk "https" "www.shop.example" [""]) 0 = some received ∧
      (pass (kiosk "https" "shop.example" ["app", "api"])).Returns received ∧
      (pass (kiosk "https" "shop.example" ["app", "api"])).sameSlot received = true := by
  have made : Uri.Made (kiosk "https" "www.shop.example" [""]) :=
    .parse (show Uri.parse "https://www.shop.example/" = _ by decide +kernel)
  have hosted : (kiosk "https" "www.shop.example" [""]).host? = some "www.shop.example" := by
    decide +kernel
  have sendable := pass_sendable kiosk_reaches
  obtain ⟨field, received, writes, reads, returns, -, places⟩ :=
    set_and_received 0 made hosted sendable
  obtain ⟨-, -, -, -, -, sameSlot⟩ := places _ rfl
  exact ⟨made, hosted, sendable, field, received, writes, reads, returns,
    sameSlot (by decide) (by decide) (by decide)⟩

/-- Says that a pass for a scope comes back from a URI as a pass for a place. -/
def BecomesPass (source scope place : Uri) : Prop :=
  ∃ field, (pass scope).setCookieText? = some field ∧
    ofSetCookie? field source 0 = some (pass place)

/-- **Scopes change on the way**: the web reads a backslash as a slash and a number at the end of a
host as an address, and a semicolon in a host ends the attribute. -/
theorem passes_change :
    ((kiosk "http" "svc" [""]).Reaches (kiosk "local" "svc" ["a\\b"]) ∧
      (pass (kiosk "local" "svc" ["a\\b"])).Sendable (kiosk "http" "svc" [""]) ∧
      BecomesPass (kiosk "http" "svc" [""])
        (kiosk "local" "svc" ["a\\b"]) (kiosk "http" "svc" ["a", "b"]) ∧
      (pass (kiosk "http" "svc" ["a", "b"])).path ≠ (pass (kiosk "local" "svc" ["a\\b"])).path ∧
      (pass (kiosk "local" "svc" ["a\\b"])).sameSlot
        (pass (kiosk "http" "svc" ["a", "b"])) = false) ∧
    ((kiosk "http" "svc" [""]).Reaches (kiosk "local" "127.1" ["a"]) ∧
      (pass (kiosk "local" "127.1" ["a"])).Sendable (kiosk "http" "svc" [""]) ∧
      BecomesPass (kiosk "http" "svc" [""])
        (kiosk "local" "127.1" ["a"]) (kiosk "http" "127.0.0.1" ["a"]) ∧
      (pass (kiosk "local" "127.1" ["a"])).sameSlot
        (pass (kiosk "http" "127.0.0.1" ["a"])) = false) ∧
    (Uri.Made (kiosk "http" "a;b" [""]) ∧
      (kiosk "http" "a;b" [""]).withHost (lower "a;b") = .ok (kiosk "http" "a;b" [""]) ∧
      BecomesPass (kiosk "http" "a;b" [""]) (kiosk "http" "a;b" [""]) (kiosk "http" "a" [""]) ∧
      (pass (kiosk "http" "a;b" [""])).sameSlot (pass (kiosk "http" "a" [""])) = false) := by
  have backslash : (kiosk "http" "svc" [""]).Reaches (kiosk "local" "svc" ["a\\b"]) :=
    { made := .parse (show Uri.parse "local://svc/a\\b" = _ by decide +kernel)
      host := ⟨"svc", by decide +kernel, by decide, by decide,
        kiosk "http" "svc" [""], by decide +kernel⟩
      path := by decide +kernel }
  have number : (kiosk "http" "svc" [""]).Reaches (kiosk "local" "127.1" ["a"]) :=
    { made := .parse (show Uri.parse "local://127.1/a" = _ by decide +kernel)
      host := ⟨"127.1", by decide +kernel, by decide, by decide,
        kiosk "http" "127.0.0.1" [""], by decide +kernel⟩
      path := by decide +kernel }
  have semicolon : Uri.Made (kiosk "http" "a;b" [""]) :=
    .parse (show Uri.parse "http://a;b/" = _ by decide +kernel)
  refine ⟨⟨backslash, pass_sendable backslash, ⟨_, rfl, ?_⟩, ?_, ?_⟩,
    ⟨number, pass_sendable number, ⟨_, rfl, ?_⟩, ?_⟩, ⟨semicolon, ?_, ⟨_, rfl, ?_⟩, ?_⟩⟩
  all_goals decide +kernel

end Cookie

end Switchboard
