import Switchboard.Proofs.Uri.Recast
/-!
URIs that differ in nothing but the scheme.

In another scheme a URI can become another one: a host can be read from its path, a segment can be
followed as a dot or take a colon as a drive letter, and what is a port of one scheme is the default
of the other. What stays what it is has a name for all that can go wrong.

* `Uri.OnlyScheme` says that a URI comes of another one by another scheme alone.
* `Uri.StaysIn` says that a URI stays what it is in a scheme.
* `Uri.queryPairs_of_readQuery`: the pairs of a query are the same in all schemes.
* `Uri.segments_eq_iff` and `Uri.segments_ne_of_lost`: which segments come back.
* `Uri.Hostless.onlyScheme_iff`: of URIs without a host only the paths can differ.
-/

namespace Switchboard.Uri

open Text

/-! ### Parts -/

/-- The port that was given. -/
def givenPort? (uri : Uri) : Option Nat := uri.authority.bind Authority.port

/-- The user name and the password. -/
def credentials (uri : Uri) : String × String :=
  match uri.authority with
  | some authority => (authority.username, authority.password)
  | none => ("", "")

/-- **Says that a URI comes of another one by another scheme alone**: user, host, segments and pairs
are the same, the host up to case, and so is the port unless the scheme has it anyway. -/
structure OnlyScheme (scheme : String) (uri other : Uri) : Prop where
  changed : other.scheme = scheme
  user : other.credentials = uri.credentials
  host : other.host?.map lower = uri.host?.map lower
  port : other.givenPort? = if uri.givenPort? = defaultPort? scheme then none else uri.givenPort?
  segments : other.segments = uri.segments
  pairs : other.queryPairs = uri.queryPairs

/-- What is put into the place of the segments of a URI in another scheme. A file without a host
that has slashes for one has an empty segment in front. -/
def placed (scheme : String) (uri : Uri) : List String :=
  match uri.path.rooted? with
  | some items =>
    if scheme = "file" ∧ uri.authority ≠ none ∧ uri.host? = none then "" :: items else items
  | none => if scheme = "file" then split '/' uri.pathText else []

/-- What a URI needs to have for files: nothing but a host, which is not this one and which no drive
letter takes the place of. -/
structure FileHost (uri : Uri) : Prop where
  user : uri.credentials = ("", "")
  port : uri.givenPort? = none
  remote : ∀ host ∈ uri.host?, lower host ≠ "localhost"
  drive : uri.host? ≠ none → ∀ items, uri.path.rooted? = some items →
    ∀ first ∈ items.head?, isDriveLetter first = false

/-- Says that the whole path is read where there is no hierarchy: no mark ends it, and no blank is
trimmed from the end of the URI. -/
def ReadsWhole (uri : Uri) : Prop :=
  (∀ c ∈ uri.pathText.toList, c ≠ '?' ∧ c ≠ '#') ∧
    (uri.query = none → uri.fragment = none → uri.pathText.toList.getLast? ≠ some ' ')

/-- **Says that a URI stays what it is in another scheme.** -/
structure StaysIn (scheme : String) (uri : Uri) : Prop where
  /-- In the schemes of the web there is a host, unless they are files. -/
  hosted : isWebScheme scheme = true → scheme ≠ "file" → uri.host? ≠ none
  /-- A host looks like those of the web. -/
  name : isWebScheme scheme = true → ∀ host ∈ uri.host?, Host.OfWeb host
  /-- A file has nothing before its path but a host. -/
  file : scheme = "file" → FileHost uri
  /-- The segments last: none is dots, a drive letter in front of a file has its colon, and in the
  schemes of the web there is no backslash. -/
  held : Held scheme (uri.placed scheme)
  /-- Nothing that begins with two slashes could be read as a host. -/
  slashes : uri.authority = none → uri.dotted = false → ∀ first rest,
    uri.path.rooted? = some ("" :: first :: rest) →
      first = "" ∨ scheme = "file" ∧ isPlainDrive first = true
  /-- Where there is a hierarchy, the path is written like those that have one. -/
  written : scheme = "file" ∨ uri.path.rooted? ≠ none →
    ∀ c ∈ uri.pathText.toList, Percent.Stays Percent.path c
  /-- Where there is none, the whole path is read. -/
  literal : scheme ≠ "file" → uri.path.rooted? = none → uri.ReadsWhole

theorem host?_of_authority {uri : Uri} {authority : Authority}
    (given : uri.authority = some authority) :
    uri.host? = if authority.host = "" then none else some authority.host := by
  rw [host?, given]

/-! ### Queries -/

/-- The pairs of a query do not depend on the scheme that it is read in. -/
theorem queryPairs_of_readQuery {uri other : Uri} {scheme : String}
    (isWritten : QueryWritten uri.query)
    (query : other.query = uri.query.map fun text => readQuery scheme text.toList) :
    other.queryPairs = uri.queryPairs := by
  rw [queryPairs, queryPairs, query]
  cases isText : uri.query with
  | none => rfl
  | some text =>
    have stays := isWritten text isText
    have isPlain : plain text.toList = text.toList :=
      plain_eq_self fun c member => inner_of_stays_query (stays c member)
    show Form.readPairs (readQuery scheme text.toList).toList = Form.readPairs text.toList
    rw [readQuery, String.toList_ofList, isPlain]
    split
    · exact Form.readPairs_write_webQuery stays
    · rw [Percent.write_eq_self stays]

/-! ### Paths -/

section Paths

variable {uri : Uri} {scheme : String} {items : List String}

theorem single_of_rooted? (made : Made uri) (rooted : uri.path.rooted? = some items) :
    ∀ item ∈ items, '/' ∉ item.toList := by
  unfold Path.rooted? at rooted
  split at rooted
  · rename_i isSegments
    obtain rfl := Option.some.inj rooted
    exact fun item member slash =>
      ((made.bears kept_fit).path _ isSegments item member '/' slash).single rfl
  · split at rooted
    · obtain rfl := Option.some.inj rooted
      intro item member
      obtain ⟨piece, isPiece, rfl⟩ := List.mem_map.mp member
      rw [String.toList_ofList]
      exact not_mem_of_mem_splitOn isPiece
    · cases rooted

theorem mem_segmentsText {item : String} (member : item ∈ items) {c : Char}
    (inItem : c ∈ item.toList) : c ∈ (Path.segmentsText items).toList := by
  induction items with
  | nil => cases member
  | cons other rest ih =>
    rw [toList_segmentsText]
    rcases List.mem_cons.mp member with rfl | later
    · exact List.mem_cons_of_mem _ (List.mem_append_left _ inItem)
    · exact List.mem_cons_of_mem _ (List.mem_append_right _ (ih later))

/-- The characters of a path with a hierarchy need no escape. -/
theorem stays_of_fit (rooted : uri.path.rooted? = some items) (fit : AllChars (Fit scheme) items) :
    ∀ c ∈ uri.pathText.toList, Percent.Stays Percent.path c := by
  intro c member
  rw [pathText, Path.text_of_rooted? rooted] at member
  rcases of_mem_segmentsText member with rfl | ⟨item, isItem, inItem⟩
  · decide
  · exact (fit item isItem c inItem).stays

/-- Segments that can stand in a path are held if they last. -/
theorem held_iff (fit : AllChars (Fit scheme) items) :
    Held scheme items ↔ Lasting (decide (scheme = "file")) items :=
  ⟨Held.lasting, fun lasting => ⟨lasting, fun isWeb item member backslash =>
    (fit item member _ backslash).unified isWeb rfl⟩⟩

/-- The segments of what is read come back just if they last. -/
theorem segments_eq_iff {other : Uri} {isFile : Bool} {others : List String}
    (own : uri.segments = items.filter (· ≠ ""))
    (same : items.filter (· ≠ "") = others.filter (· ≠ ""))
    (read : other.segments = (others.foldl (place isFile false) []).filter (· ≠ "")) :
    other.segments = uri.segments ↔ Lasting isFile others := by
  rw [own, same, read]
  exact filter_foldl_place_iff

/-- A segment that is given and not read is lost. -/
theorem segments_ne_of_lost {other : Uri} {isFile : Bool} {others : List String}
    (own : uri.segments.length = (others.filter (· ≠ "")).length + 1)
    (read : other.segments = (others.foldl (place isFile false) []).filter (· ≠ "")) :
    other.segments ≠ uri.segments := by
  intro same
  have most := countP_foldl_place_le isFile [] others
  have fewer : others.countP (fun item => item ≠ "" ∧ isProper item = true)
      ≤ others.countP (· ≠ "") := List.countP_mono_left fun item _ both => by
    simp only [decide_eq_true_eq] at both ⊢
    exact both.1
  rw [← same, read, ← List.countP_eq_length_filter, ← List.countP_eq_length_filter] at own
  rw [List.countP_nil] at most
  omega

end Paths

/-! ### URIs without a host -/

/-- Says that a URI has no user, no host and no port. -/
structure Hostless (uri : Uri) : Prop where
  user : uri.credentials = ("", "")
  host : uri.host? = none
  port : uri.givenPort? = none

theorem hostless_of_none {uri : Uri} (absent : uri.authority = none) : Hostless uri := by
  refine ⟨?_, ?_, ?_⟩
  · rw [credentials, absent]
  · rw [host?, absent]
  · rw [givenPort?, absent]
    rfl

theorem hostless_of_blank {uri : Uri} (blank : uri.authority = some ⟨"", "", "", none⟩) :
    Hostless uri := by
  refine ⟨?_, ?_, ?_⟩
  · rw [credentials, blank]
  · rw [host?, blank]
    rfl
  · rw [givenPort?, blank]
    rfl

section Hostless

variable {uri other : Uri} {scheme : String} (own : Hostless uri)
include own

theorem Hostless.fileHost : FileHost uri where
  user := own.user
  port := own.port
  remote host isHost := by
    rw [own.host] at isHost
    cases isHost
  drive hosted := absurd own.host hosted

/-- Of two URIs without a host only the paths can differ. -/
theorem Hostless.onlyScheme_iff (others : Hostless other) (changed : other.scheme = scheme)
    (pairs : other.queryPairs = uri.queryPairs) :
    OnlyScheme scheme uri other ↔ other.segments = uri.segments := by
  refine ⟨OnlyScheme.segments, fun segments => ⟨changed, ?_, ?_, ?_, segments, pairs⟩⟩
  · rw [own.user, others.user]
  · rw [own.host, others.host]
  · rw [own.port, others.port, ite_self]

/-- What stays without a host. -/
theorem Hostless.staysIn (hosted : isWebScheme scheme = true → scheme = "file")
    (held : Held scheme (uri.placed scheme))
    (slashes : uri.authority = none → uri.dotted = false → ∀ first rest,
      uri.path.rooted? = some ("" :: first :: rest) →
        first = "" ∨ scheme = "file" ∧ isPlainDrive first = true)
    (written : scheme = "file" ∨ uri.path.rooted? ≠ none →
      ∀ c ∈ uri.pathText.toList, Percent.Stays Percent.path c)
    (literal : scheme ≠ "file" → uri.path.rooted? = none → uri.ReadsWhole) :
    StaysIn scheme uri where
  hosted isWeb noFile := absurd (hosted isWeb) noFile
  name _ host isHost := by
    rw [own.host] at isHost
    cases isHost
  file _ := own.fileHost
  held := held
  slashes := slashes
  written := written
  literal := literal

end Hostless

/-- What is read in a scheme of the web without a host has one, unless it is a file. -/
theorem unhosted_iff {uri other : Uri} {scheme : String} {text : List Char}
    (isWeb : isWebScheme scheme = true) (noFile : scheme ≠ "file") (unhosted : uri.host? = none)
    (read : readAbsolute none scheme text = .ok other) :
    OnlyScheme scheme uri other ↔ StaysIn scheme uri := by
  refine ⟨fun only => ?_, fun stays => absurd unhosted (stays.hosted isWeb noFile)⟩
  have host := only.host
  rw [unhosted] at host
  exact absurd (Option.map_eq_none_iff.mp host) (host?_of_web isWeb noFile read)

end Switchboard.Uri
