import Switchboard.Proofs.Cookie.History
import Switchboard.Proofs.Cookie.Rebased
import Switchboard.Proofs.Uri.Reread
/-!
Cookies without a scope come back.

A cookie that is set without a scope is scoped to the path above the one that it came from. That path
is cut off a text, set as the path of a URI, which reads it again, and compared with other paths as a
text. So the cookie comes back to where it came from, and to all that is beside and below it, if what
was read again still covers the path that was cut off. Outside files it is that very path. In a file a
drive letter with a bar gets a colon when it is read again, and dots are taken away.

* `Cookie.defaultPath_eq`: the path that is cut off is that of all segments but the last.
* `Cookie.pathText_defaultScope_iff`: it is read as it is just if these segments last.
* `Jar.mem_fetch_update`: what is written last to its slot is given where it is sent to.
* `Jar.unscoped_returns`: when and where a cookie without a scope comes back.
-/

namespace Switchboard

open Uri

/-! ### The path above -/

namespace Cookie

/-- The path above is what stands before the last slash. -/
theorem parentPath_append {piece : List Char} (single : '/' ∉ piece) (front : List Char) :
    parentPath (front ++ '/' :: piece) = front := by
  have reversed : (front ++ '/' :: piece).reverse = piece.reverse ++ '/' :: front.reverse := by simp
  have passed : ∀ c ∈ piece.reverse, (c != '/') = true := by
    intro c member
    refine bne_iff_ne.mpr fun isSlash => single ?_
    exact isSlash ▸ List.mem_reverse.mp member
  rw [parentPath, reversed, List.dropWhile_append_of_pos passed,
    List.dropWhile_cons_of_neg (by decide)]
  exact List.reverse_reverse front

variable {source : Uri} {items : List String}

/-- **The path of a scope that is not given** is that of all segments but the last. -/
theorem defaultPath_eq (path : source.path = .segments items)
    (single : ∀ item ∈ items, '/' ∉ item.toList) :
    defaultPath source = pathOf items.dropLast := by
  rcases List.eq_nil_or_concat' items with rfl | ⟨front, last, rfl⟩
  · rw [defaultPath, pathText, path]
    rfl
  · have text : source.pathText.toList
        = (Path.segmentsText front).toList ++ '/' :: last.toList := by
      rw [pathText, path, Path.text, segmentsText_append, String.toList_append]
      simp [Path.segmentsText]
    rw [defaultPath, text, parentPath_append (single last (by simp)), List.dropLast_concat]
    cases front with
    | nil => rfl
    | cons first rest =>
      rw [← segmentsText_of_ne_nil (List.cons_ne_nil first rest)]
      simp [Path.segmentsText, String.append_assoc]

section Above

variable (made : Made source) (path : source.path = .segments items)
include made path

theorem single_of_made : ∀ item ∈ items, '/' ∉ item.toList := fun item member slash =>
  ((made.bears kept_fit).path items path item member _ slash).single rfl

theorem defaultPath_of_made : defaultPath source = pathOf items.dropLast :=
  defaultPath_eq path (single_of_made made path)

/-- The segments above are read again as they are just if they last. -/
theorem rereads_dropLast_iff : Rereads source.scheme items.dropLast ↔
    Lasting (decide (source.scheme = "file")) items.dropLast := by
  refine ⟨fun rereads => rereads.held.lasting, fun lasting => ⟨⟨lasting, ?_⟩, ?_⟩⟩
  · intro isWeb item member backslash
    have inItems := List.dropLast_subset _ member
    exact ((made.bears kept_fit).path items path item inItems _ backslash).unified isWeb rfl
  · intro isFile isHead
    -- An empty segment in front of the path of a file is all of it, and then none is above.
    obtain ⟨rest, above⟩ := List.head?_eq_some_iff.mp isHead
    obtain ⟨others, rfl⟩ : ∃ others, items = "" :: others := by
      obtain ⟨last, same⟩ := List.dropLast_prefix items
      exact ⟨rest ++ last, by rw [← same, above, List.cons_append]⟩
    have single := (made.bears kept_filled).path _ path isFile rfl
    rw [single] at above
    cases above

/-- **The path above is read again as it is** just if its segments last. -/
theorem pathText_defaultScope_iff : (defaultScope source).pathText = defaultPath source ↔
    Lasting (decide (source.scheme = "file")) items.dropLast := by
  have hierarchy : source.isLiteral = false := by rw [isLiteral, path]
  have fit : AllChars (Fit source.scheme) items.dropLast :=
    ((made.bears kept_fit).path items path).mono (List.dropLast_subset _)
  rw [defaultScope, defaultPath_of_made made path, scopeAt_pathOf hierarchy]
  by_cases nothing : items.dropLast = []
  · rw [nothing]
    exact iff_of_true ((pathText_replace_iff made hierarchy (List.forall_mem_nil _)
      (List.forall_mem_nil _)).mpr (held_nil _)) (lasting_nil _)
  · rw [← rereads_dropLast_iff made path]
    refine pathText_replace_rereads made hierarchy nothing ?_ ?_
    · exact fun item member c inItem => (fit item member c inItem).stays
    · exact fun item member => single_of_made made path item (List.dropLast_subset _ member)

/-- Outside files they do. -/
theorem lasting_dropLast (noFile : source.scheme ≠ "file") :
    Lasting (decide (source.scheme = "file")) items.dropLast where
  proper item member :=
    (made.sound.path noFile items path item (List.dropLast_subset _ member)).proper
  drive isFile := absurd (of_decide_eq_true isFile) noFile

/-- A scope at the root is read as it is: then all segments above are empty. -/
theorem lasting_of_root (root : defaultPath source = "/") :
    Lasting (decide (source.scheme = "file")) items.dropLast := by
  have empty : ∀ item ∈ items.dropLast, item = "" := by
    intro item member
    have given : items.dropLast ≠ [] := List.ne_nil_of_mem member
    have cut := split_pathOf given fun item member =>
      single_of_made made path item (List.dropLast_subset _ member)
    rw [← defaultPath_of_made made path, root] at cut
    have alone : items.dropLast = [""] := (List.cons.inj cut).2.symm
    rw [alone] at member
    exact List.mem_singleton.mp member
  refine ⟨fun item member => ?_, fun _ first isFirst drive => ?_⟩
  · rw [empty item member]
    decide
  · rw [empty first (List.mem_of_head? isFirst)] at drive
    cases drive

/-- There is a URI of the same host at the path above. -/
theorem exists_at_defaultPath : ∃ uri : Uri, uri.scheme = source.scheme ∧
    uri.host? = source.host? ∧ uri.pathText = defaultPath source := by
  rw [defaultPath_of_made made path]
  by_cases nothing : items.dropLast = []
  · exact ⟨{ source with path := .segments [""] }, rfl, rfl, by rw [nothing]; rfl⟩
  · exact ⟨{ source with path := .segments items.dropLast }, rfl, rfl,
      segmentsText_of_ne_nil nothing⟩

/-- What a URI has as its path is below the path above. -/
theorem within_defaultPath :
    defaultPath source = "/" ∨ PathWithin source.pathText (defaultPath source) := by
  rw [defaultPath_of_made made path, pathText, path, Path.text]
  rcases List.eq_nil_or_concat' items with rfl | ⟨front, last, rfl⟩
  · exact Or.inl rfl
  · rw [List.dropLast_concat]
    by_cases nothing : front = []
    · rw [nothing]
      exact Or.inl rfl
    · rw [segmentsText_append, segmentsText_of_ne_nil nothing]
      refine Or.inr (Or.inr ⟨_, rfl, Or.inr ⟨last, ?_⟩⟩)
      simp [Path.segmentsText]

/-- A scope that covers the path above covers what is below it. -/
theorem covers_of_within {below : String}
    (covers : pathCovers (defaultScope source).pathText (defaultPath source) = true)
    (within : defaultPath source = "/" ∨ PathWithin below (defaultPath source)) :
    pathCovers (defaultScope source).pathText below = true := by
  rw [pathCovers_iff] at covers ⊢
  rcases within with root | within
  · have same := (pathText_defaultScope_iff made path).mpr (lasting_of_root made path root)
    exact Or.inl (same.trans root)
  · exact covers.imp_right within.trans

end Above

end Cookie

/-! ### What is written last is given -/

namespace Jar

open Cookie

variable {jar : Jar} {writes cookies : List Cookie} {cookie : Cookie} {source uri : Uri}
  {place : Nat} {now later : Int}

/-- A cookie is given for a URI if it is held and sent there. -/
theorem mem_fetch_iff : cookie ∈ (jar.fetch uri now).1 ↔
    cookie ∈ jar.cookies ∧ cookie.matchesUri uri now = true := by
  show cookie ∈ ((jar.purge now).cookies.filter fun other => other.matchesUri uri now).mergeSort
    pathFirst ↔ _
  rw [List.mem_mergeSort, List.mem_filter, purge, List.mem_filter, and_assoc]
  refine and_congr_right fun _ => ⟨And.right, fun sent => ⟨?_, sent⟩⟩
  unfold matchesUri at sent
  rw [Bool.and_eq_true, Bool.and_eq_true] at sent
  exact sent.1.1

/-- **What is written last to its slot is held** after all writes, unless it has expired. -/
theorem mem_foldl_write (last : IsLast writes place cookie)
    (fresh : cookie.isExpired now = false) : cookie ∈ (writes.foldl (write now) jar).cookies := by
  induction writes using List.reverseRecOn with
  | nil => exact absurd last.lt_length (Nat.not_lt_zero place)
  | append_singleton writes added ih =>
    rw [List.foldl_append, List.foldl_cons, List.foldl_nil, mem_write_iff]
    rcases isLast_concat_iff.mp last with ⟨-, rfl⟩ | ⟨earlier, differs⟩
    · exact Or.inr ⟨rfl, fresh⟩
    · exact Or.inl ⟨ih earlier, differs.symm⟩

theorem isExpired_withScope (source : Uri) (cookie : Cookie) (now : Int) :
    (withScope source cookie).isExpired now = cookie.isExpired now := by
  unfold withScope
  cases cookie.scope <;> rfl

/-- **What comes last for its slot is given** wherever it is sent to, until its end. -/
theorem mem_fetch_update
    (last : IsLast (cookies.map (withScope source)) place (withScope source cookie))
    (before : now ≤ later) (fresh : cookie.isExpired later = false) :
    withScope source cookie ∈ ((jar.update cookies source now).fetch uri later).1 ↔
      (withScope source cookie).matchesUri uri later = true := by
  have fresher : (withScope source cookie).isExpired now = false := by
    refine Bool.eq_false_iff.mpr fun expired => ?_
    rw [isExpired_withScope] at expired
    rw [isExpired_of_le before expired] at fresh
    cases fresh
  rw [mem_fetch_iff, and_iff_right]
  refine List.mem_filter.mpr ⟨mem_foldl_write last fresher, ?_⟩
  rw [fresher, Bool.not_false]

/-! ### Coming back -/

/-- **Says that a cookie comes back**: to where it came from, and to every URI of the same host whose
path is the one above or goes on from it where a segment ends, by a scheme that is safe enough. -/
structure ComesBack (jar : Jar) (cookie : Cookie) (source : Uri) (now : Int) : Prop where
  home : cookie ∈ (jar.fetch source now).1
  beside : ∀ uri : Uri, uri.host?.map Text.lower = source.host?.map Text.lower →
    (cookie.secure = true → isSecureScheme uri.scheme = true) →
    defaultPath source = "/" ∨ PathWithin uri.pathText (defaultPath source) →
    cookie ∈ (jar.fetch uri now).1

theorem hostsAgree_defaultScope (same : uri.host?.map Text.lower = source.host?.map Text.lower) :
    HostsAgree (defaultScope source) uri := by
  unfold HostsAgree
  rw [defaultScope, host?_scopeAt]
  cases isDomain : source.host? with
  | none =>
    rw [isDomain] at same
    exact Or.inl ⟨rfl, Option.map_eq_none_iff.mp same⟩
  | some domain =>
    rw [isDomain] at same
    obtain ⟨host, isHost, alike⟩ := Option.map_eq_some_iff.mp same
    exact Or.inr ⟨domain, host, rfl, isHost, Or.inl alike⟩

section Unscoped

variable (unscoped : cookie.scope = none)
  (last : IsLast (cookies.map (withScope source)) place (withScope source cookie))
  (before : now ≤ later) (fresh : cookie.isExpired later = false)
include unscoped last before fresh

/-- Where a cookie without a scope is given, on the host that it came from. -/
theorem mem_fetch_unscoped (same : uri.host?.map Text.lower = source.host?.map Text.lower)
    (safe : cookie.secure = true → isSecureScheme uri.scheme = true) :
    withScope source cookie ∈ ((jar.update cookies source now).fetch uri later).1 ↔
      pathCovers (defaultScope source).pathText uri.pathText = true := by
  have isScoped : withScope source cookie = { cookie with scope := some (defaultScope source) } := by
    rw [withScope, unscoped]
  have given : (withScope source cookie).scope = some (defaultScope source) := by rw [isScoped]
  rw [mem_fetch_update last before fresh, matchesUri_iff given, isScoped, pathCovers_iff]
  have moments := isExpired_eq_false_iff.mp fresh
  exact ⟨fun sent => sent.2.2.2, fun covers =>
    ⟨moments, fun secure => isSecureScheme_iff.mp (safe secure), hostsAgree_defaultScope same,
      covers⟩⟩

/-- **A cookie without a scope comes back** just if the scope that it is given covers the path above
the one that it came from. Outside files it does: the scope is at that path. In a file it is at that
path just if no segment above is dots and the first one is no drive letter with a bar. -/
theorem unscoped_returns {items : List String} (made : Made source)
    (path : source.path = .segments items)
    (safe : cookie.secure = true → isSecureScheme source.scheme = true) (jar : Jar) :
    (source.scheme ≠ "file" →
      (jar.update cookies source now).ComesBack (withScope source cookie) source later) ∧
    ((jar.update cookies source now).ComesBack (withScope source cookie) source later ↔
      pathCovers (defaultScope source).pathText (defaultPath source) = true) ∧
    ((defaultScope source).pathText = defaultPath source ↔
      Lasting (decide (source.scheme = "file")) items.dropLast) := by
  have lasting := pathText_defaultScope_iff made path
  have secured : (withScope source cookie).secure = cookie.secure := by rw [withScope, unscoped]
  have comesBack : (jar.update cookies source now).ComesBack (withScope source cookie) source later ↔
      pathCovers (defaultScope source).pathText (defaultPath source) = true := by
    constructor
    · intro back
      obtain ⟨uri, scheme, host, text⟩ := exists_at_defaultPath made path
      have sameHost := congrArg (Option.map Text.lower) host
      have secure : cookie.secure = true → isSecureScheme uri.scheme = true := scheme ▸ safe
      have given := back.beside uri sameHost (by rwa [secured]) (Or.inr (Or.inl text))
      rw [← text]
      exact (mem_fetch_unscoped unscoped last before fresh sameHost secure).mp given
    · intro covers
      refine ⟨?_, fun uri same secure within => ?_⟩
      · exact (mem_fetch_unscoped unscoped last before fresh rfl safe).mpr
          (covers_of_within made path covers (within_defaultPath made path))
      · rw [secured] at secure
        exact (mem_fetch_unscoped unscoped last before fresh same secure).mpr
          (covers_of_within made path covers within)
  refine ⟨fun noFile => comesBack.mpr ?_, comesBack, lasting⟩
  rw [lasting.mpr (lasting_dropLast made path noFile)]
  exact pathCovers_iff.mpr (Or.inr (Or.inl rfl))

end Unscoped

/-- A cookie that is set twice comes back to the desk. -/
theorem unscoped_returns_to_desk :
    Made (kiosk "local" "desk" ["svc", "", "users"]) ∧
    (ofPair "sid" "2").scope = none ∧
    IsLast ([ofPair "sid" "1", ofPair "sid" "2"].map
      (withScope (kiosk "local" "desk" ["svc", "", "users"]))) 1
      (withScope (kiosk "local" "desk" ["svc", "", "users"]) (ofPair "sid" "2")) ∧
    (ofPair "sid" "2").isExpired 5 = false ∧
    (empty.update [ofPair "sid" "1", ofPair "sid" "2"]
      (kiosk "local" "desk" ["svc", "", "users"]) 0).ComesBack
        (withScope (kiosk "local" "desk" ["svc", "", "users"]) (ofPair "sid" "2"))
        (kiosk "local" "desk" ["svc", "", "users"]) 5 := by
  have made : Made (kiosk "local" "desk" ["svc", "", "users"]) :=
    .parse (show parse "local://desk/svc//users" = _ by decide +kernel)
  have last : IsLast ([ofPair "sid" "1", ofPair "sid" "2"].map
      (withScope (kiosk "local" "desk" ["svc", "", "users"]))) 1
      (withScope (kiosk "local" "desk" ["svc", "", "users"]) (ofPair "sid" "2")) :=
    isLast_concat [withScope (kiosk "local" "desk" ["svc", "", "users"]) (ofPair "sid" "1")] _
  have before : (0 : Int) ≤ 5 := by decide
  have returns := unscoped_returns rfl last before rfl made rfl (fun secure => nomatch secure) empty
  exact ⟨made, rfl, last, rfl, returns.1 (by decide)⟩

/-- A document in a drive whose letter has a bar. -/
def drive : Uri :=
  { scheme := "file", dotted := false, path := .segments ["C|", "a"], query := none
    fragment := none
    authority := some { username := "", password := "", host := "", port := none } }

/-- **A drive letter with a bar is read with a colon**, and a cookie that is set there does not come
back. -/
theorem unscoped_leaves_drive :
    parse "file:///C|/a" = .ok drive ∧ (ofPair "sid" "1").scope = none ∧
    IsLast ([ofPair "sid" "1"].map (withScope drive)) 0 (withScope drive (ofPair "sid" "1")) ∧
    (ofPair "sid" "1").isExpired 0 = false ∧ (ofPair "sid" "1").secure = false ∧
    defaultPath drive = "/C|" ∧ (defaultScope drive).pathText = "/C:" ∧
    ((empty.update [ofPair "sid" "1"] drive 0).fetch drive 0).1 = [] := by
  have last : IsLast ([ofPair "sid" "1"].map (withScope drive)) 0
      (withScope drive (ofPair "sid" "1")) := isLast_concat [] _
  refine ⟨?_, rfl, last, rfl, rfl, ?_⟩
  all_goals decide +kernel

end Jar

end Switchboard
