import Mathlib.Data.Bool.AllAny
import Switchboard.Proofs.Uri.Segments
/-!
The URIs that can be made.

A URI is read, perhaps relative to another one, or comes of another one of which a part was set.
However it was made, its parts are written, and what every way to read a path keeps holds of its
path. So unless it is a file, its segments are written too, and no dots are left among them.

* `Uri.Made` are the URIs that can be made.
* `Uri.of_readAuthority`: what an authority is read from.
* `Uri.Kept` says that every way to read a path keeps a property of paths.
* `Uri.Made.bears`: the paths of all URIs that can be made have such a property.
* `Uri.Made.exists_readHost`: their hosts are read in their schemes.
* `Uri.Made.sound`: what holds of all of them.
* `Uri.Made.isLiteral_of_host?`: those that have a host have a hierarchy.
-/

namespace Switchboard.Uri

open Text

/-- **The URIs that can be made** by reading texts and setting parts. -/
inductive Made : Uri → Prop where
  | parse {text : String} {uri : Uri} : parse text = .ok uri → Made uri
  | join {base uri : Uri} {reference : String} : Made base → base.join reference = .ok uri → Made uri
  | withPath {uri : Uri} (text : String) : Made uri → Made (uri.withPath text)
  | withHost {uri next : Uri} {text : String} : Made uri → uri.withHost text = .ok next → Made next
  | addPairs {uri : Uri} (pairs : List (String × String)) : Made uri → Made (uri.addPairs pairs)
  | withoutQuery {uri : Uri} : Made uri → Made uri.withoutQuery
  | withoutFragment {uri : Uri} : Made uri → Made uri.withoutFragment
  | withQueryOf {uri other : Uri} : Made uri → Made other → Made { uri with query := other.query }

/-- Says that a query is written. -/
def QueryWritten (query : Option String) : Prop :=
  ∀ text ∈ query, ∀ c ∈ text.toList, Percent.Stays Percent.query c

/-- Says that the segments of a path are settled, if it has any. -/
def PathSettled (path : Path) : Prop :=
  ∀ items, path = .segments items → ∀ item ∈ items, Settled item

/-- What holds of all URIs that can be made. -/
structure Sound (uri : Uri) : Prop where
  query : QueryWritten uri.query
  path : uri.scheme ≠ "file" → PathSettled uri.path

/-! ### Queries -/

theorem stays_query_of_webQuery {c : Char} (stays : Percent.Stays Percent.webQuery c) :
    Percent.Stays Percent.query c := by
  obtain ⟨small, kept⟩ := stays
  simp only [Percent.webQuery, Bool.or_eq_false_iff] at kept
  exact ⟨small, kept.1⟩

theorem queryWritten_none : QueryWritten none := fun _ absent => nomatch absent

theorem stays_of_mem_readQuery {scheme : String} {text : List Char} {c : Char}
    (member : c ∈ (readQuery scheme text).toList) : Percent.Stays Percent.query c := by
  rw [readQuery, String.toList_ofList] at member
  by_cases isWeb : isWebScheme scheme = true
  · rw [if_pos isWeb] at member
    exact stays_query_of_webQuery
      (Percent.stays_of_mem_write Percent.stays_webQuery_of_mem_codeChars member)
  · rw [if_neg isWeb] at member
    exact Percent.stays_of_mem_write Percent.stays_query_of_mem_codeChars member

theorem queryWritten_readTail (scheme : String) (text : List Char) :
    QueryWritten (readTail scheme text).1 := by
  unfold readTail
  split
  · intro query isQuery c member
    obtain rfl := Option.some.inj isQuery
    exact stays_of_mem_readQuery member
  · exact queryWritten_none
  · exact queryWritten_none

theorem stays_of_mem_writeForm {text : String} {c : Char} (member : c ∈ Form.write text) :
    Percent.Stays Percent.query c := by
  obtain ⟨byte, _, written⟩ := List.mem_flatMap.mp member
  have plain : ∀ n ∈ List.range 256, Form.isPlain n = true →
      Percent.Stays Percent.query (Char.ofNat n) := by decide +kernel
  unfold Form.writeByte at written
  split at written
  · obtain rfl := List.mem_singleton.mp written
    decide
  · split at written
    · rename_i isPlain
      obtain rfl := List.mem_singleton.mp written
      exact plain _ (List.mem_range.mpr byte.toNat_lt) isPlain
    · exact Percent.stays_query_of_mem_codeChars c (Percent.mem_codeChars_of_mem_writeByte written)

theorem stays_of_mem_writePair {pair : String × String} {c : Char}
    (member : c ∈ Form.writePair pair) : Percent.Stays Percent.query c := by
  rcases List.mem_append.mp member with inName | inValue
  · exact stays_of_mem_writeForm inName
  · rcases List.mem_cons.mp inValue with rfl | inValue
    · decide
    · exact stays_of_mem_writeForm inValue

theorem stays_of_mem_extendQuery {query : String} {pairs : List (String × String)}
    (before : ∀ c ∈ query.toList, Percent.Stays Percent.query c) :
    ∀ c ∈ (extendQuery query pairs).toList, Percent.Stays Percent.query c := by
  induction pairs generalizing query with
  | nil => exact before
  | cons pair rest ih =>
    apply ih
    intro c member
    rw [String.toList_append, String.toList_ofList] at member
    rcases List.mem_append.mp member with inQuery | inPair
    · split at inQuery
      · exact before c inQuery
      · rw [String.toList_append] at inQuery
        rcases List.mem_append.mp inQuery with inQuery | isMark
        · exact before c inQuery
        · obtain rfl := List.mem_singleton.mp isMark
          decide
    · exact stays_of_mem_writePair inPair

/-! ### Paths -/

/-- Where the reading of a path can start: at the root or somewhere on a path with a property. -/
inductive Start (holds : String → Path → Prop) (scheme : String) : Walk → Prop where
  | root : Start holds scheme (.after [])
  | beside {items : List String} : holds scheme (.segments items) →
      Start holds scheme (.after items.dropLast)
  /-- After the drive letter of a file. -/
  | drive {first : String} {rest : List String} : scheme = "file" →
      holds scheme (.segments (first :: rest)) → Start holds scheme (.after [first])
  /-- Within the last segment of a file. -/
  | stem {items : List String} {last : String} : scheme = "file" →
      holds scheme (.segments items) → items.getLast? = some last →
      Start holds scheme { segments := items.dropLast, stem := last, drive := false }

/-- **Says that every way to read a path keeps a property** of schemes and paths. -/
structure Kept (holds : String → Path → Prop) : Prop where
  literal (scheme text : String) : holds scheme (.literal text)
  empty (scheme : String) : holds scheme (.segments [])
  blank (scheme : String) : holds scheme (.segments [""])
  walk {scheme : String} {start : Walk} (text : List Char) : Start holds scheme start →
    holds scheme (.segments (walkPath scheme start text).segments)

/-- Reads a host of a scheme. -/
def readHost (scheme : String) (text : List Char) : Except UriFault String :=
  if isWebScheme scheme then Host.parseWeb text else Host.parseOther text

/-- Says that a host was read in a scheme, or is left out. -/
def HostRead (scheme host : String) : Prop := host = "" ∨ ∃ text, readHost scheme text = .ok host

/-- Says that a user name and a password are written. -/
def UserWritten (authority : Authority) : Prop :=
  ∀ c ∈ authority.username.toList ++ authority.password.toList, Percent.Stays Percent.userinfo c

/-- Says that a path is written if it has no hierarchy. -/
def LiteralWritten (path : Path) : Prop :=
  ∀ text, path = .literal text → ∀ c ∈ text.toList, Percent.Stays Percent.controls c

/-- Says that a fragment is written. -/
def FragmentWritten (fragment : Option String) : Prop :=
  ∀ text ∈ fragment, ∀ c ∈ text.toList, Percent.Stays Percent.fragment c

/-- What is known of a URI: its parts are written, its path has a property, its host was read, and
the path has a hierarchy if there is an authority or a dot. -/
structure Bears (holds : String → Path → Prop) (uri : Uri) : Prop where
  user : ∀ authority ∈ uri.authority, UserWritten authority
  query : QueryWritten uri.query
  fragment : FragmentWritten uri.fragment
  literal : LiteralWritten uri.path
  path : holds uri.scheme uri.path
  host : ∀ authority ∈ uri.authority, HostRead uri.scheme authority.host
  rooted : uri.authority ≠ none → uri.isLiteral = false
  dotted : uri.dotted = true → uri.isLiteral = false

/-! ### Parts that are written -/

theorem fragmentWritten_none : FragmentWritten none := fun _ absent => nomatch absent

theorem fragmentWritten_readFragment (text : List Char) :
    FragmentWritten (some (readFragment text)) := by
  intro fragment isFragment c member
  obtain rfl := Option.some.inj isFragment
  rw [readFragment, String.toList_ofList] at member
  exact Percent.stays_of_mem_write (Percent.stays_of_all (by decide)) member

theorem fragmentWritten_readTail (scheme : String) (text : List Char) :
    FragmentWritten (readTail scheme text).2 := by
  unfold readTail
  split
  · dsimp only
    split
    · exact fragmentWritten_readFragment _
    · exact fragmentWritten_none
  · exact fragmentWritten_readFragment _
  · exact fragmentWritten_none

theorem literalWritten_segments (items : List String) : LiteralWritten (.segments items) :=
  fun _ isLiteral => nomatch isLiteral

theorem literalWritten_of {text : String} (stays : ∀ c ∈ text.toList,
    Percent.Stays Percent.controls c) : LiteralWritten (.literal text) := by
  intro other same
  cases same
  exact stays

theorem stays_of_mem_write_controls {text : List Char} {c : Char}
    (member : c ∈ (String.ofList (Percent.write Percent.controls text)).toList) :
    Percent.Stays Percent.controls c := by
  rw [String.toList_ofList] at member
  exact Percent.stays_of_mem_write (Percent.stays_of_all (by decide)) member

theorem literalWritten_readLiteral (text : List Char) : LiteralWritten (readLiteral text) :=
  literalWritten_of fun _ => stays_of_mem_write_controls

/-! ### Reading -/

/-- A URI with an authority, in parts. -/
theorem withAuthority_eq (scheme : String) (text : List Char) : withAuthority scheme text
    = (readAuthority scheme (plain (spanAuthority scheme text).1) (spanAuthority scheme text).2).map
      fun (authority, rest) =>
        { scheme, authority := some authority, dotted := false
          path := .segments (readPath scheme (spanPath rest).1)
          query := (readTail scheme (spanPath rest).2).1
          fragment := (readTail scheme (spanPath rest).2).2 } := by
  show (readAuthority scheme (plain (spanAuthority scheme text).1) (spanAuthority scheme text).2 >>=
    _) = _
  cases readAuthority scheme (plain (spanAuthority scheme text).1) (spanAuthority scheme text).2 with
  | error fault => rfl
  | ok pair => rfl

/-- Two steps that succeed one after the other. -/
theorem exists_of_bind {ε α β : Type} {first : Except ε α} {next : α → Except ε β} {result : β}
    (both : (first >>= next) = .ok result) :
    ∃ found, first = .ok found ∧ next found = .ok result := by
  cases first with
  | error fault => cases both
  | ok found => exact ⟨found, rfl, both⟩

/-- What stands before the last at sign of an authority, if there is one, and what stands after. -/
def cutUser (text : List Char) : Option (List Char) × List Char :=
  (cutAtLast '@' text).elim (none, text) fun (user, host) => (some user, host)

/-- The user name and the password in what stands before the at sign. -/
def cutPassword (user : Option (List Char)) : List Char × List Char :=
  match cutAt ':' (user.getD []) with
  | some (name, password) => (name, password)
  | none => (user.getD [], [])

/-- Reads a port with the colon before it, if there is one. -/
def readPortText : List Char → Except UriFault (Option Nat × List Char)
  | _ :: digits => readPort none digits
  | [] => .ok (none, [])

/-- **What an authority is read from**: the user, the host, and the port with what follows it. -/
structure AuthorityRead (scheme : String) (text tail : List Char) (authority : Authority)
    (rest : List Char) : Prop where
  username : authority.username
    = String.ofList (Percent.write Percent.userinfo (cutPassword (cutUser text).1).1)
  password : authority.password
    = String.ofList (Percent.write Percent.userinfo (cutPassword (cutUser text).1).2)
  host : readHost scheme (spanHost false (cutUser text).2).1 = .ok authority.host
  port : ∃ port left, readPortText (spanHost false (cutUser text).2).2 = .ok (port, left) ∧
    authority.port = (if port = defaultPort? scheme then none else port) ∧ rest = left ++ tail
  hosted : authority.host = "" → (spanHost false (cutUser text).2).2 = []

theorem of_readAuthority {scheme : String} {text tail rest : List Char} {authority : Authority}
    (read : readAuthority scheme text tail = .ok (authority, rest)) :
    AuthorityRead scheme text tail authority rest := by
  unfold readAuthority at read
  dsimp only at read
  split at read
  · cases read
  generalize isUser : (cutAtLast '@' text).elim (none, text) _ = cut at read
  generalize isName : String.ofList (Percent.write Percent.userinfo _) = username at read
  generalize isPassword : String.ofList (Percent.write Percent.userinfo _) = password at read
  generalize isHost : spanHost false _ = parts at read
  obtain ⟨name, portText⟩ := parts
  have isCut : cutUser text = cut := isUser
  dsimp only at read
  have hosted : ∃ host, readHost scheme name = .ok host ∧
      (if host = "" ∧ portText ≠ [] then Except.error UriFault.emptyHost
      else readPortText portText >>= fun found =>
        if host = "" ∧ (username ≠ "" ∨ password ≠ "") then .error .emptyHost
        else
          let port := if found.1 = defaultPort? scheme then none else found.1
          .ok ({ username, password, host, port }, found.2 ++ tail)) = .ok (authority, rest) := by
    unfold readHost
    split at read
    · rename_i isWeb
      rw [if_pos isWeb]
      obtain ⟨host, isHost, read⟩ := exists_of_bind read
      split at isHost
      · cases isHost
      · refine ⟨host, isHost, ?_⟩
        rw [← read]
        cases portText <;> rfl
    · rename_i noWeb
      rw [if_neg noWeb]
      obtain ⟨host, isHost, read⟩ := exists_of_bind read
      refine ⟨host, isHost, ?_⟩
      rw [← read]
      cases portText <;> rfl
  obtain ⟨host, hostRead, read⟩ := hosted
  split at read
  · cases read
  · rename_i portless
    obtain ⟨⟨port, left⟩, portRead, read⟩ := exists_of_bind read
    split at read
    · cases read
    · cases read
      refine ⟨?_, ?_, ?_, ⟨port, left, ?_, rfl, rfl⟩, ?_⟩
      all_goals rw [isCut]
      · exact isName.symm
      · exact isPassword.symm
      · rw [isHost]
        exact hostRead
      · rw [isHost]
        exact portRead
      · rw [isHost]
        exact fun unnamed => Decidable.byContradiction fun given => portless ⟨unnamed, given⟩

/-- The host of an authority that is read. -/
theorem AuthorityRead.hostRead {scheme : String} {text tail rest : List Char} {authority : Authority}
    (read : AuthorityRead scheme text tail authority rest) : HostRead scheme authority.host :=
  Or.inr ⟨_, read.host⟩

theorem AuthorityRead.userWritten {scheme : String} {text tail rest : List Char}
    {authority : Authority} (read : AuthorityRead scheme text tail authority rest) :
    UserWritten authority := by
  intro c member
  rw [read.username, read.password, String.toList_ofList, String.toList_ofList] at member
  have codes : ∀ c ∈ Percent.codeChars, Percent.Stays Percent.userinfo c :=
    Percent.stays_of_all (by decide)
  rcases List.mem_append.mp member with inName | inPassword
  · exact Percent.stays_of_mem_write codes inName
  · exact Percent.stays_of_mem_write codes inPassword

theorem userWritten_of_empty {authority : Authority} (noName : authority.username = "")
    (noPassword : authority.password = "") : UserWritten authority := by
  intro c absent
  rw [noName, noPassword] at absent
  cases absent

/-- A file with a host is read from the root. -/
theorem exists_fileUri_of_fileWithHost {text : List Char} {uri : Uri}
    (read : fileWithHost text = .ok uri) :
    ∃ host yields rest, HostRead "file" host ∧ uri = fileUri host yields (.after []) rest := by
  have after : ∀ (host : String) (rest : List Char), HostRead "file" host →
      (if host = "" ∨ host = "localhost" then .ok (fileUri "" false (.after []) rest)
        else .ok (fileUri host true (.after []) (dropSlash rest)) : Except UriFault Uri) = .ok uri →
      ∃ host yields rest, HostRead "file" host ∧ uri = fileUri host yields (.after []) rest := by
    intro host rest hostRead read
    split at read
    · cases read
      exact ⟨_, _, _, Or.inl rfl, rfl⟩
    · cases read
      exact ⟨_, _, _, hostRead, rfl⟩
  unfold fileWithHost at read
  split at read
  rename_i name rest _
  dsimp only at read
  split at read
  · cases read
    exact ⟨_, _, _, Or.inl rfl, rfl⟩
  · split at read
    · exact after "" rest (Or.inl rfl) read
    · cases parsed : Host.parseWeb (plain name) with
      | error fault =>
        rw [parsed] at read
        cases read
      | ok host =>
        rw [parsed] at read
        exact after host rest (Or.inr ⟨_, parsed⟩) read

theorem of_fileBase {base : Option Uri} {host : String} {items : List String}
    (isFile : fileBase base = some (host, items)) :
    ∃ uri, base = some uri ∧ uri.scheme = "file" ∧ uri.path = .segments items ∧
      host = uri.host?.getD "" := by
  unfold fileBase at isFile
  split at isFile
  · rename_i uri
    split at isFile
    · rename_i path
      split at isFile
      · rename_i scheme
        cases isFile
        exact ⟨uri, rfl, scheme, path, rfl⟩
      · cases isFile
    · cases isFile
  · cases isFile

/-! ### Setting a host -/

/-- A URI with another host. -/
def onHost (uri : Uri) (host : String) : Uri :=
  let authority := uri.authority.getD { username := "", password := "", host := "", port := none }
  { uri with authority := some { authority with host } }

/-- What is read as the host when a text is set. -/
def hostName (text : String) : List Char :=
  if text.toList.head? = some '[' && text.toList.getLast? = some ']' then text.toList
  else text.toList.takeWhile (· != ':')

/-- A host is set if it is read, unless there is no place for one. -/
theorem withHost_eq {uri : Uri} (hierarchy : uri.isLiteral = false) {text : String}
    (given : text ≠ "") (noColon : text.toList.head? ≠ some ':') :
    uri.withHost text = (readHost uri.scheme (hostName text)).map uri.onHost := by
  unfold withHost
  dsimp only
  rw [if_neg (by simp [hierarchy]), if_neg (by simp [given]), if_neg (by simp [noColon])]
  unfold readHost hostName
  split
  · cases Host.parseWeb _ <;> rfl
  · cases Host.parseOther _ <;> rfl

/-- What is set as a host was read. -/
theorem exists_of_withHost {uri next : Uri} {text : String} (set : uri.withHost text = .ok next) :
    uri.isLiteral = false ∧ ∃ host, readHost uri.scheme (hostName text) = .ok host ∧
      next = uri.onHost host := by
  unfold withHost at set
  dsimp only at set
  split at set
  · cases set
  · rename_i hierarchy
    refine ⟨Bool.eq_false_iff.mpr hierarchy, ?_⟩
    split at set
    · cases set
    · split at set
      · cases set
      · have read : (readHost uri.scheme (hostName text)).map uri.onHost = .ok next := by
          rw [← set]
          unfold readHost hostName
          split
          · cases Host.parseWeb _ <;> rfl
          · cases Host.parseOther _ <;> rfl
        cases host : readHost uri.scheme (hostName text) with
        | error fault =>
          rw [host] at read
          cases read
        | ok found =>
          rw [host] at read
          exact ⟨found, rfl, (Except.ok.inj read).symm⟩

section Reading

variable {holds : String → Path → Prop}

theorem start_walkBeside {segments : List String} (on : holds "file" (.segments segments)) :
    Start holds "file" (walkBeside segments) := by
  unfold walkBeside
  split
  · rename_i last isLast
    split
    · exact .beside on
    · split
      · rename_i single
        obtain ⟨first, rfl⟩ := List.length_eq_one_iff.mp single
        exact .drive rfl on
      · exact .stem rfl on isLast
  · exact .root

theorem Bears.withFragment {uri : Uri} (bears : Bears holds uri) {fragment : Option String}
    (isWritten : FragmentWritten fragment) : Bears holds { uri with fragment } :=
  { bears with fragment := isWritten }

theorem Bears.withTail {uri : Uri} (bears : Bears holds uri) (scheme : String) (text : List Char) :
    Bears holds
      { uri with query := (readTail scheme text).1, fragment := (readTail scheme text).2 } :=
  { bears with
    query := queryWritten_readTail scheme text
    fragment := fragmentWritten_readTail scheme text }

/-- The host of a URI as it is read by others. -/
theorem Bears.hostRead {uri : Uri} (bears : Bears holds uri) :
    HostRead uri.scheme (uri.host?.getD "") := by
  unfold host?
  split
  · rename_i authority given
    split
    · exact Or.inl rfl
    · exact bears.host authority given
  · exact Or.inl rfl

variable (kept : Kept holds)
include kept

theorem Kept.readPath (scheme : String) (text : List Char) :
    holds scheme (.segments (readPath scheme text)) := by
  unfold Uri.readPath
  split
  · split
    · exact kept.blank scheme
    · exact kept.empty scheme
  · exact kept.walk _ .root
  · exact kept.walk _ .root

theorem bears_of_withAuthority {scheme : String} {text : List Char} {uri : Uri}
    (read : withAuthority scheme text = .ok uri) : Bears holds uri := by
  rw [withAuthority_eq] at read
  cases authority : readAuthority scheme (plain (spanAuthority scheme text).1)
      (spanAuthority scheme text).2 with
  | error fault =>
    rw [authority] at read
    cases read
  | ok pair =>
    rw [authority] at read
    obtain rfl := Except.ok.inj read
    have parts := of_readAuthority authority
    exact
      { user := fun _ same => Option.some.inj same ▸ parts.userWritten
        query := queryWritten_readTail _ _
        fragment := fragmentWritten_readTail _ _
        literal := literalWritten_segments _
        path := kept.readPath scheme _
        host := fun _ same => Option.some.inj same ▸ parts.hostRead
        rooted := fun _ => rfl
        dotted := fun _ => rfl }

theorem bears_fileUri {start : Walk} (starts : Start holds "file" start) {host : String}
    (hostRead : HostRead "file" host) (yields : Bool) (text : List Char) :
    Bears holds (fileUri host yields start text) where
  user _ same := Option.some.inj same ▸ userWritten_of_empty rfl rfl
  query := queryWritten_readTail _ _
  fragment := fragmentWritten_readTail _ _
  literal := literalWritten_segments _
  path := kept.walk _ starts
  host authority same := by
    obtain rfl := Option.some.inj same
    dsimp only
    split
    · exact Or.inl rfl
    · exact hostRead
  rooted _ := rfl
  dotted _ := rfl

/-- What a file is read as has the property if its base does. -/
theorem bears_of_readFile {base : Option Uri} (bears : ∀ uri ∈ base, Bears holds uri)
    {text : List Char} {uri : Uri} (read : readFile base text = .ok uri) : Bears holds uri := by
  have onBase : ∀ {host items}, fileBase base = some (host, items) →
      holds "file" (.segments items) ∧ HostRead "file" host := by
    intro host items isFile
    obtain ⟨uri, isBase, scheme, path, rfl⟩ := of_fileBase isFile
    have on := (bears uri isBase).path
    have hostRead := (bears uri isBase).hostRead
    rw [scheme, path] at on
    rw [scheme] at hostRead
    exact ⟨on, hostRead⟩
  have noHost : HostRead "file" "" := Or.inl rfl
  unfold readFile at read
  split at read
  · obtain ⟨host, yields, rest, hostRead, rfl⟩ := exists_fileUri_of_fileWithHost read
    exact bears_fileUri kept .root hostRead _ _
  · dsimp only at read
    split at read
    · rename_i isFile
      split at read
      · cases read
        exact bears_fileUri kept .root noHost _ _
      · split at read
        · split at read
          · cases read
            exact bears_fileUri kept (.drive rfl (onBase isFile).1) noHost _ _
          · cases read
            exact bears_fileUri kept .root (onBase isFile).2 _ _
        · cases read
          exact bears_fileUri kept .root (onBase isFile).2 _ _
    · cases read
      exact bears_fileUri kept .root noHost _ _
  · split at read
    · rename_i base host segments isFile
      split at read
      · cases read
        exact (bears base rfl).withFragment fragmentWritten_none
      · cases read
        exact (bears base rfl).withTail "file" ('?' :: _)
      · cases read
        exact (bears base rfl).withFragment (fragmentWritten_readFragment _)
      · split at read
        · cases read
          exact bears_fileUri kept .root noHost _ _
        · cases read
          exact bears_fileUri kept (start_walkBeside (onBase isFile).1) (onBase isFile).2 _ _
    · cases read
      exact bears_fileUri kept .root noHost _ _

theorem Bears.beside {base : Uri} (bears : Bears holds base) {segments : List String}
    (starts : Start holds base.scheme (.after segments)) (text : List Char) :
    Bears holds (beside base segments text) where
  user := bears.user
  query := queryWritten_readTail _ _
  fragment := fragmentWritten_readTail _ _
  literal := literalWritten_segments _
  path := kept.walk _ starts
  host := bears.host
  rooted _ := rfl
  dotted _ := rfl

theorem Bears.of_readRelative {base : Uri} (bears : Bears holds base) {segments : List String}
    (path : base.path = .segments segments) {text : List Char} {uri : Uri}
    (read : readRelative base segments text = .ok uri) : Bears holds uri := by
  unfold readRelative at read
  split at read
  · cases read
    exact bears.withFragment fragmentWritten_none
  · rename_i rest
    cases read
    exact bears.withTail base.scheme ('?' :: rest)
  · cases read
    exact bears.withFragment (fragmentWritten_readFragment _)
  · dsimp only at read
    split at read
    · split at read
      · exact bears_of_withAuthority kept read
      · cases read
        exact bears.beside kept .root _
    · cases read
      have on := bears.path
      rw [path] at on
      exact bears.beside kept (.beside on) _

theorem bears_of_readAbsolute {base : Option Uri} (bears : ∀ uri ∈ base, Bears holds uri)
    {scheme : String} {text : List Char} {uri : Uri}
    (read : readAbsolute base scheme text = .ok uri) : Bears holds uri := by
  unfold readAbsolute at read
  split at read
  · exact bears_of_readFile kept bears read
  · split at read
    · simp only at read
      split at read
      · rename_i path
        split at read
        · refine (bears _ rfl).of_readRelative kept ?_ read
          simpa using path
        · exact bears_of_withAuthority kept read
      · exact bears_of_withAuthority kept read
    · split at read
      · exact bears_of_withAuthority kept read
      · cases read
        refine ⟨(fun _ absent => nomatch absent), queryWritten_readTail _ _,
          fragmentWritten_readTail _ _, ?_, ?_, (fun _ absent => nomatch absent),
          (fun given => absurd rfl given), ?_⟩
        all_goals simp only
        all_goals split
        · exact literalWritten_segments _
        · exact literalWritten_readLiteral _
        · exact kept.walk _ .root
        · exact kept.literal _ _
        · exact fun _ => rfl
        · exact fun dotted => absurd dotted Bool.false_ne_true

theorem bears_of_parseWith {base : Option Uri} (bears : ∀ uri ∈ base, Bears holds uri)
    {text : String} {uri : Uri} (read : parseWith base text = .ok uri) : Bears holds uri := by
  unfold parseWith at read
  simp only at read
  split at read
  · exact bears_of_readAbsolute kept bears read
  · split at read
    · cases read
    · split at read
      · cases read
        exact (bears _ rfl).withFragment (fragmentWritten_readFragment _)
      · cases read
      · rename_i path _
        split at read
        · exact bears_of_readFile kept bears read
        · exact (bears _ rfl).of_readRelative kept path read

/-! ### Setting parts -/

/-- Any text that is written can take the place of a path without a hierarchy. -/
theorem Bears.withLiteral {uri : Uri} (bears : Bears holds uri) {old : String}
    (isLiteral : uri.path = .literal old) {text : String}
    (stays : ∀ c ∈ text.toList, Percent.Stays Percent.controls c) :
    Bears holds { uri with path := .literal text } := by
  have literal : uri.isLiteral = true := by rw [Uri.isLiteral, isLiteral]
  have noHierarchy : ∀ {anything : Prop}, uri.isLiteral = false → anything :=
    fun hierarchy => absurd (literal.symm.trans hierarchy) (by decide)
  exact
    { bears with
      literal := literalWritten_of stays
      path := kept.literal _ _
      rooted := fun given => noHierarchy (bears.rooted given)
      dotted := fun dotted => noHierarchy (bears.dotted dotted) }

theorem Bears.trimLiteral {uri : Uri} (bears : Bears holds uri) : Bears holds uri.trimLiteral := by
  unfold Uri.trimLiteral
  split
  · rename_i text isLiteral _ _
    refine bears.withLiteral kept isLiteral fun c member => bears.literal _ isLiteral c ?_
    rw [String.toList_ofList, dropEndWhile, List.mem_reverse] at member
    exact List.mem_reverse.mp ((List.dropWhile_sublist _).subset member)
  · exact bears

theorem Bears.withPath {uri : Uri} (bears : Bears holds uri) (text : String) :
    Bears holds (uri.withPath text) := by
  have slash : ∀ c ∈ "%2F".toList, Percent.Stays Percent.controls c :=
    List.all_iff_forall_prop.mp (by decide)
  unfold Uri.withPath
  simp only
  split
  · rename_i isLiteral
    split
    · refine bears.withLiteral kept isLiteral fun c member => ?_
      rw [String.toList_append] at member
      rcases List.mem_append.mp member with isSlash | inText
      · exact slash c isSlash
      · exact stays_of_mem_write_controls inText
    · exact bears.withLiteral kept isLiteral fun _ => stays_of_mem_write_controls
  · refine
      { bears with
        literal := literalWritten_segments _
        path := ?_
        rooted := fun _ => rfl
        dotted := fun _ => rfl }
    dsimp only
    split
    · exact kept.empty _
    · exact kept.readPath _ _

omit kept in
theorem Bears.of_withHost {uri next : Uri} (bears : Bears holds uri) {text : String}
    (set : uri.withHost text = .ok next) : Bears holds next := by
  obtain ⟨hierarchy, host, read, rfl⟩ := exists_of_withHost set
  refine
    { bears with
      user := fun authority same => ?_
      host := fun authority same => ?_
      rooted := fun _ => hierarchy }
  · obtain rfl := Option.some.inj same
    cases old : uri.authority with
    | none => exact userWritten_of_empty rfl rfl
    | some before => exact bears.user before old
  · obtain rfl := Option.some.inj same
    exact Or.inr ⟨_, read⟩

omit kept in
theorem Bears.addPairs {uri : Uri} (bears : Bears holds uri) (pairs : List (String × String)) :
    Bears holds (uri.addPairs pairs) := by
  have before : ∀ c ∈ (uri.query.getD "").toList, Percent.Stays Percent.query c := by
    cases old : uri.query with
    | none =>
      intro c absent
      cases absent
    | some text => exact bears.query text old
  refine { bears with query := fun query isQuery => ?_ }
  obtain rfl := Option.some.inj isQuery
  exact stays_of_mem_extendQuery before

/-- **However a URI was made**, its parts are written, its path has what every way to read one keeps,
and a hierarchy if there is an authority or a dot. -/
theorem Made.bears {uri : Uri} (made : Made uri) : Bears holds uri := by
  induction made with
  | parse read =>
    have noBase : ∀ uri ∈ (none : Option Uri), Bears holds uri := fun _ absent => nomatch absent
    exact bears_of_parseWith kept noBase read
  | join _ read ih =>
    refine bears_of_parseWith kept (fun uri same => ?_) read
    obtain rfl := Option.some.inj same
    exact ih
  | withPath text _ ih => exact ih.withPath kept text
  | withHost _ set ih => exact ih.of_withHost set
  | addPairs pairs _ ih => exact ih.addPairs pairs
  | withoutQuery _ ih =>
    exact Bears.trimLiteral kept { ih with query := queryWritten_none }
  | withoutFragment _ ih => exact (ih.withFragment fragmentWritten_none).trimLiteral kept
  | withQueryOf _ _ ih ihOther => exact { ih with query := ihOther.query }

end Reading

/-! ### Settled paths -/

theorem pathSettled_segments {items : List String} (settled : ∀ item ∈ items, Settled item) :
    PathSettled (.segments items) := by
  intro others same
  cases same
  exact settled

/-- Outside files a path that is read is settled. -/
theorem kept_settled : Kept fun scheme path => scheme ≠ "file" → PathSettled path where
  literal _ _ _ _ isSegments := nomatch isSegments
  empty _ _ := pathSettled_segments (List.forall_mem_nil _)
  blank _ _ := pathSettled_segments (List.forall_mem_singleton.mpr settled_empty)
  walk text starts noFile := by
    apply pathSettled_segments
    cases starts with
    | root => exact settled_of_mem_readPathFrom noFile (List.forall_mem_nil _)
    | beside on =>
      exact settled_of_mem_readPathFrom noFile fun item member =>
        on noFile _ rfl item (List.dropLast_subset _ member)
    | drive isFile on => exact absurd isFile noFile
    | stem isFile on isLast => exact absurd isFile noFile

/-- **However a URI was made**, its query is written and its path settled. -/
theorem Made.sound {uri : Uri} (made : Made uri) : Sound uri :=
  let bears := made.bears kept_settled
  ⟨bears.query, bears.path⟩

/-- An empty host counts as none. -/
theorem ne_empty_of_host? {uri : Uri} {host : String} (given : uri.host? = some host) :
    host ≠ "" := by
  unfold host? at given
  split at given
  · split at given
    · cases given
    · rename_i named
      exact Option.some.inj given ▸ named
  · cases given

/-- The host of a URI was read in its scheme. -/
theorem Made.exists_readHost {uri : Uri} (made : Made uri) {host : String}
    (given : uri.host? = some host) : ∃ text, readHost uri.scheme text = .ok host := by
  have hostRead := (made.bears kept_settled).hostRead
  rw [given, Option.getD_some] at hostRead
  exact hostRead.resolve_left (ne_empty_of_host? given)

/-- What has a host has a hierarchy. -/
theorem Made.isLiteral_of_host? {uri : Uri} (made : Made uri) {host : String}
    (given : uri.host? = some host) : uri.isLiteral = false := by
  refine (made.bears kept_settled).rooted fun absent => ?_
  rw [host?, absent] at given
  cases given

/-- The segments of a URI that is no file are settled, if it has a hierarchy. -/
theorem Sound.settled {uri : Uri} (sound : Sound uri) (noFile : uri.scheme ≠ "file")
    (hierarchy : uri.isLiteral = false) : ∀ segment ∈ uri.segments, Settled segment := by
  obtain ⟨items, path⟩ := exists_path hierarchy
  have settled := sound.path noFile items path
  rw [segments_eq path fun item member => (settled item member).single]
  intro segment member
  exact settled segment (List.mem_filter.mp member).1

end Switchboard.Uri
