import Switchboard.Proofs.Uri.Alone
import Switchboard.Proofs.Uri.Unrooted
/-!
URIs that stay what they are in another scheme.

Whether a URI is the same in another scheme is decided by where its path begins: after an authority,
after a slash, or with neither. In each case the segments can only come back if they can stand in
the other scheme, and then the whole text is read as it stands.

* `Uri.onlyScheme_iff_staysIn`: another scheme changes nothing else just if the URI stays in it.
* `Uri.staysIn_iff_of_host`: which URIs with a host stay in a scheme other than that of files.
-/

namespace Switchboard.Uri

open Text

/-! ### Segments that can stand in another scheme -/

theorem AllChars.of_filter {holds : Char → Prop} {items : List String}
    (all : AllChars holds (items.filter (· ≠ ""))) : AllChars holds items := by
  intro item member c inItem
  refine all item (List.mem_filter.mpr ⟨member, decide_eq_true fun empty => ?_⟩) c inItem
  rw [empty] at inItem
  cases inItem

section Fit

variable {uri other : Uri} {scheme : String} {items : List String}

/-- Segments that come back can stand in the other scheme. -/
theorem OnlyScheme.fit (only : OnlyScheme scheme uri other) (otherMade : Made other)
    (hierarchy : other.isLiteral = false) (own : uri.segments = items.filter (· ≠ "")) :
    AllChars (Fit scheme) items := by
  have fit := segments_fit otherMade hierarchy
  rw [only.changed, only.segments, own] at fit
  exact fit.of_filter

/-- So can the segments of what stays. -/
theorem StaysIn.fit (stays : StaysIn scheme uri)
    (written : scheme = "file" ∨ uri.path.rooted? ≠ none)
    (inText : ∀ item ∈ items, ∀ c ∈ item.toList, c ∈ uri.pathText.toList)
    (inPlace : items ⊆ uri.placed scheme) (single : ∀ item ∈ items, '/' ∉ item.toList) :
    AllChars (Fit scheme) items := fun item member c inItem =>
  { stays := stays.written written c (inText item member c inItem)
    single := fun same => single item member (same ▸ inItem)
    unified := fun isWeb same =>
      stays.held.unified isWeb item (inPlace member) (same ▸ inItem) }

end Fit

/-! ### URIs that are read again -/

section Change

variable {uri other : Uri} (made : Made uri) {target : String} (valid : isScheme target = true)
  (read : parse (target ++ uri.restText) = .ok other)

/-- What has segments begins with a slash. -/
theorem exists_slash {items : List String} (rooted : uri.path.rooted? = some items)
    (given : items ≠ []) :
    ∃ rest, uri.frontText ++ (uri.pathChars ++ uri.tailText) = '/' :: rest := by
  unfold frontText
  cases uri.authority with
  | some authority => exact ⟨_, rfl⟩
  | none =>
    rw [pathChars_of_rooted? rooted]
    have shownGiven : shown uri.dotted items ≠ [] := by
      cases uri.dotted
      · exact given
      · exact List.cons_ne_nil _ _
    obtain ⟨first, rest, isShown⟩ := List.exists_cons_of_ne_nil shownGiven
    rw [isShown, toList_segmentsText_cons]
    exact ⟨_, rfl⟩

include made valid read

/-- **A URI with segments** in another scheme. -/
theorem onlyScheme_iff_of_rooted {items : List String} (rooted : uri.path.rooted? = some items)
    (hosted : isWebScheme (lower target) = true → lower target ≠ "file" → uri.host? ≠ none) :
    OnlyScheme (lower target) uri other ↔ StaysIn (lower target) uri := by
  have otherMade : Made other := .parse read
  have single := single_of_rooted? made rooted
  have own := segments_of_rooted? rooted single
  have isText : uri.pathText = Path.segmentsText items := Path.text_of_rooted? rooted
  -- Each side tells that the segments can stand in the other scheme, so this can be assumed.
  suffices readFit : AllChars (Fit (lower target)) items →
      (OnlyScheme (lower target) uri other ↔ StaysIn (lower target) uri) by
    constructor
    · intro only
      refine (readFit ?_).mp only
      by_cases given : items = []
      · rw [given]
        exact List.forall_mem_nil _
      · obtain ⟨rest, isSlash⟩ := exists_slash rooted given
        have slash : isEdge '/' = false := by decide
        rw [parse_restText made valid, isSlash, ← List.nil_append ('/' :: rest),
          dropEndWhile_append_stop _ slash] at read
        exact only.fit otherMade (isLiteral_of_slash read) own
    · intro stays
      refine (readFit (stays.fit ?_ (fun item member c inItem => ?_) (fun item member => ?_)
        single)).mpr stays
      · exact Or.inr (by simp [rooted])
      · rw [isText]
        exact mem_segmentsText member inItem
      · rw [placed, rooted]
        dsimp only
        split
        · exact List.mem_cons_of_mem _ member
        · exact member
  intro fit
  have inner : ∀ c ∈ uri.pathChars, Inner c := by
    intro c member
    rw [pathChars_of_rooted? rooted] at member
    rcases of_mem_segmentsText member with rfl | ⟨item, isItem, inItem⟩
    · decide
    · exact inner_of_stays_path (fit_shown fit uri.dotted item isItem c inItem).stays
  rw [parse_restText_of_inner made valid inner] at read
  unfold frontText at read
  cases given : uri.authority with
  | some authority =>
    rw [given] at read
    by_cases isFile : lower target = "file"
    · rw [isFile] at fit read ⊢
      exact onlyScheme_iff_of_file made given rooted otherMade fit read
    · exact onlyScheme_iff_of_authority made given rooted otherMade fit isFile
        (fun isWeb => hosted isWeb isFile) read
  | none =>
    rw [given] at read
    by_cases isFile : lower target = "file"
    · rw [isFile] at fit read ⊢
      exact onlyScheme_iff_of_pathFile made given rooted fit otherMade read
    · have noWeb : isWebScheme (lower target) = false := Bool.eq_false_iff.mpr fun isWeb =>
        hosted isWeb isFile (hostless_of_none given).host
      exact onlyScheme_iff_of_path made given rooted fit otherMade noWeb read

/-- **A URI without a hierarchy** in another scheme. -/
theorem onlyScheme_iff_of_unrooted (unrooted : uri.path.rooted? = none)
    (hosted : isWebScheme (lower target) = true → lower target ≠ "file" → uri.host? ≠ none) :
    OnlyScheme (lower target) uri other ↔ StaysIn (lower target) uri := by
  have otherMade : Made other := .parse read
  obtain ⟨absent, noDot⟩ := bare_of_unrooted made unrooted
  have own := hostless_of_none absent
  have isText : uri.pathChars = uri.pathText.toList := by
    rw [pathChars, noDot]
    rfl
  have noFront : uri.frontText = [] := by
    rw [frontText, absent]
  by_cases isFile : lower target = "file"
  · have isJoin := toList_pathText_eq_join uri
    suffices readFit : AllChars (Fit "file") (split '/' uri.pathText) →
        (OnlyScheme "file" uri other ↔ StaysIn "file" uri) by
      rw [isFile]
      constructor
      · intro only
        rw [parse_restText made valid, isFile] at read
        have hierarchy := (of_readFile (readFile_of_readAbsolute read)).1
        exact (readFit (only.fit otherMade hierarchy rfl)).mp only
      · intro stays
        refine (readFit (stays.fit (Or.inl rfl) (fun item member c inItem => ?_) ?_ ?_)).mpr stays
        · rw [isJoin, toList_join]
          exact mem_joinWith (List.mem_map_of_mem member) inItem
        · simp [placed, unrooted]
        · intro item member
          obtain ⟨piece, isPiece, rfl⟩ := List.mem_map.mp member
          rw [String.toList_ofList]
          exact not_mem_of_mem_splitOn isPiece
    intro fit
    have inner : ∀ c ∈ uri.pathChars, Inner c := by
      intro c member
      rw [isText, isJoin] at member
      exact (of_fit_join fit member).1
    rw [parse_restText_of_inner made valid inner, isFile, noFront, List.nil_append, isText] at read
    exact onlyScheme_iff_of_literalFile made unrooted fit otherMade read
  · have noWeb : isWebScheme (lower target) = false := Bool.eq_false_iff.mpr fun isWeb =>
      hosted isWeb isFile own.host
    rw [parse_restText made valid, noFront, List.nil_append, isText] at read
    exact onlyScheme_iff_of_literal made unrooted noWeb read

/-- **What stays of a URI in another scheme**: all but the scheme, just if the URI stays in it. -/
theorem onlyScheme_iff_staysIn :
    OnlyScheme (lower target) uri other ↔ StaysIn (lower target) uri := by
  by_cases hosted : isWebScheme (lower target) = true → lower target ≠ "file" → uri.host? ≠ none
  · cases rooted : uri.path.rooted? with
    | some items => exact onlyScheme_iff_of_rooted made valid read rooted hosted
    | none => exact onlyScheme_iff_of_unrooted made valid read rooted hosted
  · simp only [Classical.not_imp, not_not] at hosted
    obtain ⟨isWeb, noFile, unhosted⟩ := hosted
    rw [parse_restText made valid] at read
    exact unhosted_iff isWeb noFile unhosted read

end Change

/-! ### URIs with a host -/

section Hosted

variable {uri : Uri} (made : Made uri) {host scheme : String} (given : uri.host? = some host)
  (noFile : scheme ≠ "file") (noFileToo : uri.scheme ≠ "file")
include made given noFile noFileToo

/-- **A URI with a host stays** in a scheme of the web if its host looks like those of the web and
its segments have no backslash, and in all other schemes. -/
theorem staysIn_iff_of_host : StaysIn scheme uri ↔
    (isWebScheme scheme = true → Host.OfWeb host ∧ ∀ item ∈ uri.segments, '\\' ∉ item.toList) := by
  obtain ⟨authority, isAuthority⟩ : ∃ authority, uri.authority = some authority := by
    cases isAuthority : uri.authority with
    | some authority => exact ⟨authority, rfl⟩
    | none =>
      rw [host?, isAuthority] at given
      cases given
  obtain ⟨items, path, fit⟩ := exists_fit_path made (made.isLiteral_of_host? given)
  have rooted : uri.path.rooted? = some items := by rw [path, Path.rooted?]
  have isPlaced : uri.placed scheme = items := by simp [placed, rooted, noFile]
  have isSegments := made.segments_eq path
  have hosted : isWebScheme scheme = true → scheme ≠ "file" → uri.host? ≠ none :=
    fun _ _ => by simp [given]
  constructor
  · intro stays isWeb
    have unified := stays.held.unified isWeb
    rw [isPlaced] at unified
    refine ⟨stays.name isWeb host given, fun item member => ?_⟩
    rw [isSegments] at member
    exact unified item (List.mem_filter.mp member).1
  · intro ofWeb
    have unified : isWebScheme scheme = true → ∀ item ∈ items, '\\' ∉ item.toList := by
      intro isWeb item member backslash
      have inSegments : item ∈ uri.segments := by
        rw [isSegments]
        refine List.mem_filter.mpr ⟨member, decide_eq_true fun empty => ?_⟩
        rw [empty] at backslash
        cases backslash
      exact (ofWeb isWeb).2 item inSegments backslash
    have fitToo : AllChars (Fit scheme) items := fun item member c inItem =>
      { stays := (fit item member c inItem).stays
        single := (fit item member c inItem).single
        unified := fun isWeb same => unified isWeb item member (same ▸ inItem) }
    refine staysIn_of_authority isAuthority rooted fitToo hosted (fun isWeb name isHost => ?_)
      (fun isFile => absurd isFile noFile) ?_
    · rw [given] at isHost
      exact Option.some.inj isHost ▸ (ofWeb isWeb).1
    · have proper := fun item member => (made.sound.path noFileToo items path item member).proper
      rw [isPlaced]
      exact ⟨⟨proper, fun isFile => absurd (of_decide_eq_true isFile) noFile⟩, unified⟩

end Hosted

end Switchboard.Uri
