import Switchboard.Cookie.Public
import Switchboard.Proofs.Cookie.Received
import Switchboard.Proofs.Uri.Places
/-!
Cookies that are set behind an alias.

A service has a local place and a public one. What was asked for below the public place is served
below the local one, and what the two paths have in common at their ends is taken for what was asked
for. That may be more, if the two places end alike, but then it is the same on both sides. So a
scope below the local place becomes the same scope below the public one, if a public path holds its
segments.

* `Cookie.rebase_shared`: a scope is put below the public place, whatever the two places share.
* `Cookie.covers_iff_isPrefix`: a path of segments covers just those that begin with its segments.
* `Cookie.toPublic_covers`: the public scope of a cookie, and what it covers.
-/

namespace Switchboard.Cookie

open Uri

/-! ### What two paths have in common -/

section Lists

variable {one other : List String}

/-- What stands beside what it begins with is the same. -/
theorem eq_of_mem_zip {front rest : List String} {pair : String × String}
    (member : pair ∈ (front ++ rest).zip front) : pair.1 = pair.2 := by
  induction front with
  | nil => simp at member
  | cons item others ih =>
    rcases List.mem_cons.mp member with rfl | later
    · rfl
    · exact ih later

/-- The length of the longest common front of two lists of segments, up to the case of letters. -/
def sharedFront (one other : List String) : Nat :=
  ((one.zip other).takeWhile fun (a, b) => Text.sameName a b).length

theorem sharedEnd_eq (one other : List String) :
    sharedEnd one other = sharedFront one.reverse other.reverse := rfl

theorem sharedFront_cons {name same : String} (shares : Text.sameName name same = true)
    (one other : List String) :
    sharedFront (name :: one) (same :: other) = sharedFront one other + 1 := by
  simp [sharedFront, shares]

theorem sharedFront_cons_of_not {name same : String} (differs : ¬Text.sameName name same = true)
    (one other : List String) : sharedFront (name :: one) (same :: other) = 0 := by
  simp [sharedFront, differs]

/-- The longest common front goes on behind a front that is the same. -/
theorem sharedFront_append (front one other : List String) :
    sharedFront (front ++ one) (front ++ other) = front.length + sharedFront one other := by
  induction front with
  | nil => exact (Nat.zero_add _).symm
  | cons name rest ih =>
    rw [List.cons_append, List.cons_append, sharedFront_cons (Text.sameName_refl name), ih,
      List.length_cons]
    omega

theorem sharedEnd_append (one other rest : List String) :
    sharedEnd (one ++ rest) (other ++ rest) = rest.length + sharedEnd one other := by
  rw [sharedEnd_eq, List.reverse_append, List.reverse_append, sharedFront_append,
    List.length_reverse, sharedEnd_eq]

/-- **Says that names that differ in the case of letters only are the same** in two lists. -/
def Alike (one other : List String) : Prop :=
  ∀ name ∈ one, ∀ same ∈ other, Text.sameName name same = true → name = same

instance (one other : List String) : Decidable (Alike one other) :=
  inferInstanceAs (Decidable (∀ _ ∈ one, ∀ _ ∈ other, _ → _))

theorem Alike.exists_sharedFront (alike : Alike one other) : ∃ shared rest others,
    one = shared ++ rest ∧ other = shared ++ others ∧ shared.length = sharedFront one other := by
  induction one generalizing other with
  | nil => exact ⟨[], [], other, rfl, rfl, rfl⟩
  | cons name rest ih =>
    cases other with
    | nil => exact ⟨[], name :: rest, [], rfl, rfl, rfl⟩
    | cons same others =>
      by_cases shares : Text.sameName name same = true
      · have later : Alike rest others := fun a isFirst b isSecond =>
          alike a (List.mem_cons_of_mem name isFirst) b (List.mem_cons_of_mem same isSecond)
        obtain ⟨shared, after, afterToo, rfl, rfl, length⟩ := ih later
        obtain rfl := alike name List.mem_cons_self same List.mem_cons_self shares
        exact ⟨name :: shared, after, afterToo, rfl, rfl,
          (congrArg Nat.succ length).trans (sharedFront_cons shares _ _).symm⟩
      · exact ⟨[], _, _, rfl, rfl, (sharedFront_cons_of_not shares rest others).symm⟩

/-- **What two lists share at their ends** is the end of both. -/
theorem Alike.exists_sharedEnd (alike : Alike one other) : ∃ front replaced shared,
    one = front ++ shared ∧ other = replaced ++ shared ∧ shared.length = sharedEnd one other := by
  have alikeBack : Alike one.reverse other.reverse := by simpa [Alike] using alike
  obtain ⟨shared, rest, others, isOne, isOther, length⟩ := alikeBack.exists_sharedFront
  refine ⟨rest.reverse, others.reverse, shared.reverse, ?_, ?_, List.length_reverse.trans length⟩
  · rw [← List.reverse_append, ← isOne, List.reverse_reverse]
  · rw [← List.reverse_append, ← isOther, List.reverse_reverse]

/-- What is below a front is put below what takes its place. -/
theorem rebase_append (front replacement rest : List String) :
    rebase (front ++ rest) front replacement = replacement ++ rest := by
  have begins : beginsWith (front ++ rest) front = true := by
    rw [beginsWith, Bool.and_eq_true]
    refine ⟨by simp, List.all_eq_true.mpr fun (a, b) member => ?_⟩
    obtain rfl : a = b := eq_of_mem_zip member
    exact Text.sameName_refl a
  rw [rebase, if_pos begins, List.drop_left]

/-- **A scope is put below the public place**, whatever the two places share at their ends. -/
theorem rebase_shared {localPlace publicPlace : List String} (asked below : List String)
    (alike : Alike localPlace publicPlace) :
    let localItems := localPlace ++ asked
    let publicItems := publicPlace ++ asked
    let shared := sharedEnd localItems publicItems
    rebase (localPlace ++ below) (localItems.take (localItems.length - shared))
      (publicItems.take (publicItems.length - shared)) = publicPlace ++ below := by
  obtain ⟨front, replaced, shared, rfl, rfl, length⟩ := alike.exists_sharedEnd
  intro localItems publicItems sharedToo
  have more : sharedToo = (shared ++ asked).length := by
    show sharedEnd (front ++ shared ++ asked) (replaced ++ shared ++ asked) = _
    rw [sharedEnd_append, ← length, List.length_append, Nat.add_comm]
  have without : ∀ first : List String, (first ++ shared ++ asked).take
      ((first ++ shared ++ asked).length - sharedToo) = first := by
    intro first
    rw [more, List.append_assoc, List.length_append, Nat.add_sub_cancel, List.take_left]
  rw [without front, without replaced, List.append_assoc, rebase_append, List.append_assoc]

end Lists

/-! ### What paths of segments cover -/

section Covering

variable {one other : List String} {scope uri : Uri}

theorem split_append_slash (front back : String) :
    Text.split '/' (front ++ "/" ++ back) = Text.split '/' front ++ Text.split '/' back := by
  simp [Text.split, Text.splitOn_append_sep]

/-- A path of segments does not end in a slash, unless it is the root. -/
theorem pathOf_ne_append_slash (areSegments : AreSegments one) (given : one ≠ [])
    (front : String) : pathOf one ≠ front ++ "/" := by
  intro ends
  have cut := split_pathOf given fun item member => (areSegments item member).2
  have nothing : Text.split '/' "" = [""] := by decide
  rw [ends, ← String.append_empty (s := front ++ "/"), split_append_slash, nothing] at cut
  obtain ⟨first, rest, rfl⟩ := List.exists_cons_of_ne_nil given
  have last : (first :: rest).getLast? = some "" := by
    rw [← List.getLast?_cons_cons (a := ""), ← cut, List.getLast?_concat]
  exact (areSegments "" (List.mem_of_getLast? last)).1 rfl

/-- **A path of segments covers those that begin with its segments.** -/
theorem pathCovers_pathOf_iff (areSegments : AreSegments one) (areSegmentsToo : AreSegments other) :
    pathCovers (pathOf one) (pathOf other) = true ↔ one <+: other := by
  have found := filter_split_pathOf areSegments
  have foundToo := filter_split_pathOf areSegmentsToo
  rw [pathCovers_iff]
  constructor
  · rintro (root | same | ⟨rest, goesOn, ⟨front, ends⟩ | ⟨back, rfl⟩⟩)
    · have nothing : one = [] := by
        rw [← found, root]
        decide
      rw [nothing]
      exact List.nil_prefix
    · have alike : other = one := by rw [← found, ← foundToo, same]
      exact alike ▸ List.prefix_refl other
    · by_cases nothing : one = []
      · rw [nothing]
        exact List.nil_prefix
      · exact absurd ends (pathOf_ne_append_slash areSegments nothing front)
    · rw [← String.append_assoc] at goesOn
      rw [← foundToo, goesOn, split_append_slash, List.filter_append, found]
      exact List.prefix_append _ _
  · rintro ⟨rest, rfl⟩
    by_cases nothing : one = []
    · exact Or.inl (by rw [nothing]; rfl)
    · refine Or.inr ?_
      rw [pathOf_append nothing]
      cases rest with
      | nil => exact Or.inl String.append_empty
      | cons item others =>
        refine Or.inr ⟨_, rfl, Or.inr ⟨item ++ Path.segmentsText others, ?_⟩⟩
        exact String.append_assoc

/-- A scope covers what begins with its segments, where the hosts agree. -/
theorem covers_iff_isPrefix (hosts : HostsAgree scope uri) (areSegments : AreSegments one)
    (areSegmentsToo : AreSegments other) (scopePath : scope.pathText = pathOf one)
    (path : uri.pathText = pathOf other) : covers scope uri = true ↔ one <+: other := by
  rw [covers_iff, ← pathCovers_iff, scopePath, path,
    pathCovers_pathOf_iff areSegments areSegmentsToo]
  exact and_iff_right hosts

/-- Hosts that are named alike agree. -/
theorem hostsAgree_of_sameName {domain host : String} (isDomain : scope.host? = some domain)
    (isHost : uri.host? = some host) (same : Text.sameName domain host = true) :
    HostsAgree scope uri :=
  Or.inr ⟨domain, host, isDomain, isHost, Or.inl ((Text.sameName_iff _ _).mp same).symm⟩

theorem hostsAgree_of_eq (same : uri.host? = scope.host?) : HostsAgree scope uri := by
  cases isDomain : scope.host? with
  | none => exact Or.inl ⟨isDomain, same.trans isDomain⟩
  | some domain =>
    exact hostsAgree_of_sameName isDomain (same.trans isDomain) (Text.sameName_refl domain)

end Covering

/-! ### Public scopes -/

/-- The scope of a hierarchy at a path of segments is the URI with these segments alone. -/
theorem scopeAt_pathOf {uri : Uri} (hierarchy : uri.isLiteral = false) (items : List String) :
    scopeAt uri (pathOf items)
      = { uri with path := (uri.replace items).path, query := none, fragment := none } := by
  obtain ⟨segments, path⟩ := exists_path (isLiteral_replace hierarchy items)
  show ((uri.replace items).withoutQuery).withoutFragment = _
  rw [replace_path hierarchy]
  simp only [withoutQuery, withoutFragment, trimLiteral, path]

theorem host?_publicScope (scope localUri publicUri : Uri) :
    (publicScope scope localUri publicUri).host? = publicUri.host? :=
  host?_scopeAt publicUri _

/-- **A scope is set behind an alias**: what was asked for below a public place was served below a
local one, and the scope is below that, too. Names in the two places are the same if they differ in
the case of letters only. -/
structure Behind (localPlace publicPlace asked below : List String)
    (localUri publicUri scope : Uri) : Prop where
  localSegments : localUri.segments = localPlace ++ asked
  publicSegments : publicUri.segments = publicPlace ++ asked
  alike : Alike localPlace publicPlace
  publicMade : Made publicUri
  hierarchy : publicUri.isLiteral = false
  scopeMade : Made scope
  path : scope.pathText = pathOf (localPlace ++ below)
  areSegments : AreSegments (localPlace ++ below)
  sameHost : ∃ domain host, scope.host? = some domain ∧ localUri.host? = some host ∧
    Text.sameName domain host = true

namespace Behind

variable {localPlace publicPlace asked below : List String} {localUri publicUri scope : Uri}
variable (behind : Behind localPlace publicPlace asked below localUri publicUri scope)
include behind

theorem scopeSegments : scope.segments = localPlace ++ below :=
  segments_of_pathText behind.path behind.areSegments

theorem scopeHierarchy : scope.isLiteral = false := by
  obtain ⟨domain, -, isDomain, -⟩ := behind.sameHost
  exact behind.scopeMade.isLiteral_of_host? isDomain

theorem publicPlace_subset : publicPlace ⊆ publicUri.segments := by
  rw [behind.publicSegments]
  exact List.subset_append_left _ _

theorem below_subset : below ⊆ scope.segments := by
  rw [behind.scopeSegments]
  exact List.subset_append_right _ _

theorem areSegments_public : AreSegments publicPlace :=
  fun _ member => of_mem_segments (behind.publicPlace_subset member)

theorem areSegments_moved : AreSegments (publicPlace ++ below) :=
  List.forall_mem_append.mpr ⟨behind.areSegments_public,
    (List.forall_mem_append.mp behind.areSegments).2⟩

/-- The characters of the segments stay as they are in any path. -/
theorem stay : AllChars (Text.Percent.Stays Text.Percent.path) (publicPlace ++ below) := by
  intro item member c inItem
  rcases List.mem_append.mp member with isPublic | isBelow
  · have fit := segments_fit behind.publicMade behind.hierarchy
    exact (fit item (behind.publicPlace_subset isPublic) c inItem).stays
  · have fit := segments_fit behind.scopeMade behind.scopeHierarchy
    exact (fit item (behind.below_subset isBelow) c inItem).stays

/-- **A public path holds the scope**, outside files, unless it is one of the web and the scope has
a backslash below the local place. -/
theorem held_iff (noFile : publicUri.scheme ≠ "file") (noFileToo : scope.scheme ≠ "file") :
    Held publicUri.scheme (publicPlace ++ below) ↔
      (isWebScheme publicUri.scheme = true → ∀ item ∈ below, '\\' ∉ item.toList) := by
  constructor
  · exact fun held isWeb item member => held.unified isWeb item (List.mem_append_right _ member)
  · intro unified
    have lasting := lasting_segments behind.publicMade behind.hierarchy noFile
    have lastingToo := lasting_segments behind.scopeMade behind.scopeHierarchy noFileToo
    have fit := segments_fit behind.publicMade behind.hierarchy
    refine ⟨⟨?_, fun isFile => absurd (of_decide_eq_true isFile) noFile⟩, fun isWeb => ?_⟩
    · exact List.forall_mem_append.mpr
        ⟨fun item member => lasting.proper item (behind.publicPlace_subset member),
          fun item member => lastingToo.proper item (behind.below_subset member)⟩
    · exact List.forall_mem_append.mpr
        ⟨fun item member backslash =>
          (fit item (behind.publicPlace_subset member) _ backslash).unified isWeb rfl,
          unified isWeb⟩

theorem publicScope_eq : publicScope scope localUri publicUri = { publicUri with
    path := (publicUri.replace (publicPlace ++ below)).path, query := none, fragment := none } := by
  rw [publicScope, behind.localSegments, behind.publicSegments, behind.scopeSegments,
    rebase_shared asked below behind.alike]
  exact scopeAt_pathOf behind.hierarchy _

/-- The public scope is at the same place below the public place, just if a public path holds it. -/
theorem pathText_publicScope_iff :
    (publicScope scope localUri publicUri).pathText = pathOf (publicPlace ++ below) ↔
      Held publicUri.scheme (publicPlace ++ below) := by
  rw [behind.publicScope_eq]
  exact pathText_replace_iff behind.publicMade behind.hierarchy behind.areSegments_moved behind.stay

/-- **The public scope covers below the public place** what the scope covers below the local one. -/
theorem covers_publicScope_iff (held : Held publicUri.scheme (publicPlace ++ below))
    {more : List String} (areSegments : AreSegments more) {visited served : Uri}
    (publicHost : visited.host? = publicUri.host?) (localHost : served.host? = localUri.host?)
    (publicPath : visited.pathText = pathOf (publicPlace ++ more))
    (localPath : served.pathText = pathOf (localPlace ++ more)) :
    covers (publicScope scope localUri publicUri) visited = true ↔ covers scope served = true := by
  obtain ⟨domain, host, isDomain, isHost, same⟩ := behind.sameHost
  have servedHosts := hostsAgree_of_sameName isDomain (localHost.trans isHost) same
  have visitedHosts := hostsAgree_of_eq
    (publicHost.trans (host?_publicScope scope localUri publicUri).symm)
  have localSegments := (List.forall_mem_append.mp behind.areSegments).1
  rw [covers_iff_isPrefix servedHosts behind.areSegments
      (List.forall_mem_append.mpr ⟨localSegments, areSegments⟩) behind.path localPath,
    covers_iff_isPrefix visitedHosts behind.areSegments_moved
      (List.forall_mem_append.mpr ⟨behind.areSegments_public, areSegments⟩)
      (behind.pathText_publicScope_iff.mpr held) publicPath,
    List.prefix_append_right_inj, List.prefix_append_right_inj]

end Behind

/-- **The public scope of a cookie** is where the scope is, but below the public place, just if a
public path holds its segments, and then it covers below the public place what the scope covers
below the local one. Nothing else of the cookie changes, but that it is secure by `https`. -/
theorem toPublic_covers {localPlace publicPlace asked below : List String}
    {localUri publicUri scope : Uri} {cookie : Cookie} (isScope : cookie.scope = some scope)
    (behind : Behind localPlace publicPlace asked below localUri publicUri scope) :
    ∃ moved : Uri,
      cookie.toPublic localUri publicUri = { cookie with
        scope := some moved, secure := cookie.secure || publicUri.scheme == "https" } ∧
      moved = { publicUri with path := moved.path, query := none, fragment := none } ∧
      (moved.pathText = pathOf (publicPlace ++ below) ↔
        Held publicUri.scheme (publicPlace ++ below)) ∧
      (publicUri.scheme ≠ "file" → scope.scheme ≠ "file" →
        (Held publicUri.scheme (publicPlace ++ below) ↔
          (isWebScheme publicUri.scheme = true → ∀ item ∈ below, '\\' ∉ item.toList))) ∧
      (Held publicUri.scheme (publicPlace ++ below) → ∀ more, AreSegments more →
        ∀ visited served : Uri, visited.host? = publicUri.host? → served.host? = localUri.host? →
        visited.pathText = pathOf (publicPlace ++ more) →
        served.pathText = pathOf (localPlace ++ more) →
        (covers moved visited = true ↔ covers scope served = true)) := by
  obtain ⟨domain, host, isDomain, isHost, same⟩ := behind.sameHost
  refine ⟨publicScope scope localUri publicUri, ?_, ?_, behind.pathText_publicScope_iff,
    behind.held_iff, ?_⟩
  · simp only [toPublic, isScope, isDomain, isHost, if_pos same]
  · rw [behind.publicScope_eq]
  · intro held more areSegments visited served publicHost localHost publicPath localPath
    exact behind.covers_publicScope_iff held areSegments publicHost localHost publicPath localPath

/-! ### Kiosks -/

/-- A path of a host. -/
def kiosk (scheme host : String) (items : List String) : Uri :=
  { scheme, dotted := false, path := .segments items, query := none, fragment := none
    authority := some { username := "", password := "", host, port := none } }

/-- A ticket that is scoped to a path of a host in the same process. -/
def ticket (host : String) (items : List String) : Cookie :=
  { ofPair "ticket" "7" with scope := some (kiosk "local" host items) }

theorem kiosk_made : Made (kiosk "https" "shop.example" ["app", "api", "users"]) ∧
    Made (kiosk "local" "desk" ["svc", "api", "session"]) :=
  ⟨.parse (show parse "https://shop.example/app/api/users" = _ by decide +kernel),
    .parse (show parse "local://desk/svc/api/session" = _ by decide +kernel)⟩

theorem behind_kiosk : Behind ["svc", "api"] ["app", "api"] ["users"] ["session"]
    (kiosk "local" "desk" ["svc", "api", "users"])
    (kiosk "https" "shop.example" ["app", "api", "users"])
    (kiosk "local" "desk" ["svc", "api", "session"]) where
  localSegments := by decide +kernel
  publicSegments := by decide +kernel
  alike := by decide +kernel
  publicMade := kiosk_made.1
  hierarchy := rfl
  scopeMade := kiosk_made.2
  path := by decide +kernel
  areSegments := by decide +kernel
  sameHost := ⟨"desk", "desk", by decide +kernel, by decide +kernel, by decide +kernel⟩

/-- Both places of a kiosk end alike, and the ticket comes back below the right one. -/
theorem ticket_toPublic_covers :
    (ticket "desk" ["svc", "api", "session"]).scope
      = some (kiosk "local" "desk" ["svc", "api", "session"]) ∧
    Behind ["svc", "api"] ["app", "api"] ["users"] ["session"]
      (kiosk "local" "desk" ["svc", "api", "users"])
      (kiosk "https" "shop.example" ["app", "api", "users"])
      (kiosk "local" "desk" ["svc", "api", "session"]) ∧
    ∃ moved, ((ticket "desk" ["svc", "api", "session"]).toPublic
        (kiosk "local" "desk" ["svc", "api", "users"])
        (kiosk "https" "shop.example" ["app", "api", "users"])).scope = some moved ∧
      moved.pathText = "/app/api/session" ∧
      covers moved (kiosk "https" "shop.example" ["app", "api", "session", "7"]) = true := by
  have isScope : (ticket "desk" ["svc", "api", "session"]).scope
      = some (kiosk "local" "desk" ["svc", "api", "session"]) := rfl
  obtain ⟨moved, cookie, -, path, held, same⟩ := toPublic_covers isScope behind_kiosk
  have holds : Held "https" (["app", "api"] ++ ["session"]) :=
    (held (by decide) (by decide)).mpr fun _ => by decide +kernel
  have text : pathOf (["app", "api"] ++ ["session"]) = "/app/api/session" := by decide +kernel
  refine ⟨isScope, behind_kiosk, moved, by rw [cookie], (path.mpr holds).trans text, ?_⟩
  refine (same holds ["session", "7"] (by decide +kernel) _
    (kiosk "local" "desk" ["svc", "api", "session", "7"]) ?_ ?_ ?_ ?_).mpr ?_
  all_goals decide +kernel

/-- **A backslash in a scope becomes a slash** on the web: the public scope is another path, and
covers what the scope does not. -/
theorem backslash_leaves_scope :
    Behind [] ["app"] ["rest"] ["a\\b"] (kiosk "local" "svc" ["rest"])
      (kiosk "http" "h" ["app", "rest"]) (kiosk "local" "svc" ["a\\b"]) ∧
    ∃ moved, ((ticket "svc" ["a\\b"]).toPublic (kiosk "local" "svc" ["rest"])
        (kiosk "http" "h" ["app", "rest"])).scope = some moved ∧
      moved.pathText = "/app/a/b" ∧ moved.pathText ≠ pathOf (["app"] ++ ["a\\b"]) ∧
      covers moved (kiosk "http" "h" ["app", "a", "b"]) = true ∧
      covers (kiosk "local" "svc" ["a\\b"]) (kiosk "local" "svc" ["a", "b"]) = false := by
  have publicMade : parse "http://h/app/rest" = .ok (kiosk "http" "h" ["app", "rest"]) := by
    decide +kernel
  have scopeMade : parse "local://svc/a\\b" = .ok (kiosk "local" "svc" ["a\\b"]) := by
    decide +kernel
  refine ⟨?_, kiosk "http" "h" ["app", "a", "b"], ?_⟩
  · exact {
      localSegments := by decide +kernel
      publicSegments := by decide +kernel
      alike := by decide +kernel
      publicMade := .parse publicMade
      hierarchy := rfl
      scopeMade := .parse scopeMade
      path := by decide +kernel
      areSegments := by decide +kernel
      sameHost := ⟨"svc", "svc", by decide +kernel, by decide +kernel, by decide +kernel⟩ }
  · decide +kernel

end Switchboard.Cookie
