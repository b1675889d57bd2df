import Switchboard.Proofs.Uri.Appended
/-!
Paths that are read again.

The path of one URI can be set as the path of another one. It stays as it is if the scheme of that
one reads its segments as they are, empty ones included: outside files these stand anywhere, in a
file none stands in front.

* `Uri.Rereads` says that a scheme reads segments as they are.
* `Uri.pathText_replace_rereads`: a path that is set stays just if it is read as it is.
* `Uri.Made.rereads`: files apart, schemes of one kind read each other's paths as they are.
-/

namespace Switchboard.Uri

open Text

/-- **Says that a scheme reads segments as they are**, empty ones included. -/
structure Rereads (scheme : String) (items : List String) : Prop where
  held : Held scheme items
  filled : scheme = "file" → items.head? = some "" → items = [""]

/-! ### Segments that are given -/

/-- A segment that is given adds at most itself to those that are. -/
theorem countP_place_le (isFile : Bool) (above : List String) (segment : String) :
    (place isFile false above segment).countP (· ≠ "")
      ≤ above.countP (· ≠ "") + if segment ≠ "" ∧ isProper segment = true then 1 else 0 := by
  have dropped := (dropLastSegment_isPrefix above).sublist.countP_le (p := (· ≠ ""))
  unfold place
  split
  · rename_i isFirst
    simp only [Bool.and_eq_true] at isFirst
    rw [if_pos ⟨ne_empty_of_isDriveLetter isFirst.2, isProper_of_isDriveLetter isFirst.2⟩]
    exact Nat.le_trans List.countP_le_length (Nat.le_add_left 1 _)
  · by_cases proper : isProper segment = true
    · rw [addSegment_of_proper proper, List.countP_append]
      simp [proper, List.countP_singleton]
    · rw [if_neg fun both => proper both.2]
      unfold addSegment
      split
      · exact dropped
      · split
        · exact Nat.le_refl _
        · rename_i notAbove notHere
          exact absurd (isProper_iff.mpr ⟨by simpa using notAbove, by simpa using notHere⟩) proper

theorem countP_foldl_place_le (isFile : Bool) (above items : List String) :
    (items.foldl (place isFile false) above).countP (· ≠ "")
      ≤ above.countP (· ≠ "") + items.countP fun item => item ≠ "" ∧ isProper item = true := by
  induction items generalizing above with
  | nil => exact Nat.le_refl _
  | cons item rest ih =>
    have first := countP_place_le isFile above item
    have later := ih (place isFile false above item)
    rw [List.foldl_cons, List.countP_cons]
    simp only [decide_eq_true_eq] at *
    omega

/-- If nothing that is given is lost, no segment stands for another one. -/
theorem proper_of_countP_le {isFile : Bool} {items : List String}
    (kept : items.countP (· ≠ "") ≤ (items.foldl (place isFile false) []).countP (· ≠ "")) :
    ∀ item ∈ items, isProper item = true := by
  have placed := countP_foldl_place_le isFile [] items
  rw [List.countP_nil, Nat.zero_add] at placed
  have both : ∀ item ∈ items, item ≠ "" → isProper item = true := by
    have counted : (items.filter (· ≠ "")).countP isProper
        = items.countP fun item => item ≠ "" ∧ isProper item = true := by
      rw [List.countP_filter]
      refine List.countP_congr fun item _ => ?_
      simp [and_comm]
    have all : (items.filter (· ≠ "")).countP isProper = (items.filter (· ≠ "")).length := by
      refine Nat.le_antisymm List.countP_le_length ?_
      rw [counted, ← List.countP_eq_length_filter]
      exact Nat.le_trans kept placed
    intro item member given
    exact List.countP_eq_length.mp all item (List.mem_filter.mpr ⟨member, by simpa using given⟩)
  intro item member
  by_cases empty : item = ""
  · rw [empty]
    decide
  · exact both item member empty

/-! ### Paths of files -/

theorem trimFilePath_eq_self_iff {items : List String} (given : items ≠ []) :
    trimFilePath items = items ↔ (items.head? = some "" → items = [""]) := by
  cases items with
  | nil => exact absurd rfl given
  | cons first rest =>
    by_cases empty : first = ""
    · subst empty
      have shorter := (List.dropWhile_sublist (fun item => decide (item = "")) (l := rest)).length_le
      unfold trimFilePath
      rw [List.dropWhile_cons_of_pos (by decide)]
      split
      · simp [eq_comm]
      · rename_i segments isRest
        constructor
        · intro same
          rw [same, List.length_cons] at shorter
          omega
        · intro single
          have nothing := (List.cons.inj (single rfl)).2
          rw [nothing] at isRest
          exact (isRest rfl).elim
    · simp [trimFilePath, empty]

/-- The segments of a file stay if a drive letter has its colon and no empty one stands in front. -/
theorem trimFilePath_drive_iff {first : String} {rest : List String} :
    trimFilePath ((if isDriveLetter first then colonDrive first else first) :: rest) = first :: rest
      ↔ (isDriveLetter first = true → isPlainDrive first = true) ∧
        (some first = some "" → first :: rest = [""]) := by
  by_cases drive : isDriveLetter first = true
  · have notEmpty := ne_empty_of_isDriveLetter drive
    have untrimmed : trimFilePath (colonDrive first :: rest) = colonDrive first :: rest :=
      (trimFilePath_eq_self_iff (List.cons_ne_nil _ _)).mpr fun isHead =>
        absurd (Option.some.inj isHead) (colonDrive_ne_empty first)
    have same : colonDrive first :: rest = first :: rest ↔ colonDrive first = first :=
      ⟨fun both => (List.cons.inj both).1, congrArg (· :: rest)⟩
    rw [if_pos drive, untrimmed, same, colonDrive_eq_self_iff drive]
    exact ⟨fun plain => ⟨fun _ => plain, fun isHead => absurd (Option.some.inj isHead) notEmpty⟩,
      fun both => both.1 drive⟩
  · rw [if_neg drive, trimFilePath_eq_self_iff (List.cons_ne_nil _ _)]
    exact ⟨fun filled => ⟨fun isDrive => absurd isDrive drive, filled⟩, And.right⟩

section Again

variable {scheme : String} {items : List String}

/-- What is read of segments without dots. -/
theorem walkPath_join_of_proper (fit : AllChars (Fit scheme) items) (given : items ≠ [])
    (proper : ∀ item ∈ items, isProper item = true) :
    (walkPath scheme (.after []) (Text.join "/" items).toList).segments
      = if scheme = "file" then
          trimFilePath (items.foldl (place (decide (scheme = "file")) false) [])
        else items.foldl (place (decide (scheme = "file")) false) [] := by
  have stemless : (Walk.after []).stem = "" := rfl
  have unbroken := fun (_ : decide (scheme = "file") = true) piece =>
    brokenDrive?_of_mem_join fit piece
  have isWritten := map_segmentText_join fit
  rw [if_neg given] at isWritten
  have properPieces := proper
  rw [← isWritten] at properPieces
  have added := segments_addPieces_of_proper stemless unbroken (List.forall_mem_map.mp properPieces)
  rw [isWritten] at added
  unfold walkPath
  dsimp only
  split
  · exact congrArg trimFilePath added
  · exact added

/-- Of segments without dots only the first one can differ when it is read. -/
theorem walkPath_join_iff_of_proper (fit : AllChars (Fit scheme) items) (given : items ≠ [])
    (proper : ∀ item ∈ items, isProper item = true) :
    (walkPath scheme (.after []) (Text.join "/" items).toList).segments = items
      ↔ Rereads scheme items := by
  have unified : isWebScheme scheme = true → ∀ item ∈ items, '\\' ∉ item.toList :=
    fun isWeb item member backslash => (fit item member _ backslash).unified isWeb rfl
  obtain ⟨first, rest, rfl⟩ := List.exists_cons_of_ne_nil given
  rw [walkPath_join_of_proper fit given proper, foldl_place_cons proper]
  by_cases isFile : scheme = "file"
  · subst isFile
    rw [if_pos rfl, decide_eq_true rfl, Bool.true_and, trimFilePath_drive_iff]
    constructor
    · rintro ⟨plain, filled⟩
      refine ⟨⟨⟨proper, fun _ other isFirst => ?_⟩, unified⟩, fun _ => filled⟩
      obtain rfl := Option.some.inj isFirst
      exact plain
    · intro rereads
      exact ⟨rereads.held.lasting.drive (by decide) first rfl, rereads.filled rfl⟩
  · have notFile : decide (scheme = "file") = false := decide_eq_false isFile
    rw [if_neg isFile, notFile, Bool.false_and, if_neg Bool.false_ne_true]
    refine ⟨fun _ => ⟨⟨⟨proper, fun inFile => ?_⟩, unified⟩, fun inFile => absurd inFile isFile⟩,
      fun _ => rfl⟩
    exact absurd (of_decide_eq_true inFile) isFile

/-- **Segments are read as they are** just if the scheme rereads them. -/
theorem walkPath_join_iff (fit : AllChars (Fit scheme) items) (given : items ≠ []) :
    (walkPath scheme (.after []) (Text.join "/" items).toList).segments = items
      ↔ Rereads scheme items := by
  constructor
  · intro same
    -- As many segments come back as were given, so there are no dots among them.
    have kept := filter_walkPath_join fit
    rw [same] at kept
    have counts : items.countP (· ≠ "")
        ≤ (items.foldl (place (decide (scheme = "file")) false) []).countP (· ≠ "") := by
      rw [List.countP_eq_length_filter, List.countP_eq_length_filter]
      exact Nat.le_of_eq (congrArg List.length kept)
    exact (walkPath_join_iff_of_proper fit given (proper_of_countP_le counts)).mp same
  · exact fun rereads =>
      (walkPath_join_iff_of_proper fit given rereads.held.lasting.proper).mpr rereads

end Again

/-! ### The path of a URI -/

section Set

variable {uri : Uri} (made : Made uri) (hierarchy : uri.isLiteral = false) {items : List String}
  (given : items ≠ []) (stay : AllChars (Percent.Stays Percent.path) items)
  (single : ∀ item ∈ items, '/' ∉ item.toList)
include made hierarchy given stay single

/-- **A path stays as it is** when it is set just if the scheme rereads its segments. -/
theorem path_replace_iff :
    (uri.replace items).path = .segments items ↔ Rereads uri.scheme items := by
  constructor
  · intro same
    have newMade : Made (uri.replace items) := made.withPath _
    have fit := (newMade.bears kept_fit).path items same
    rw [scheme_replace hierarchy] at fit
    rw [path_replace made hierarchy fit] at same
    exact (walkPath_join_iff fit given).mp (Path.segments.inj same)
  · intro rereads
    have fit : AllChars (Fit uri.scheme) items := fun item member c inItem =>
      { stays := stay item member c inItem
        single := fun slash => single item member (slash ▸ inItem)
        unified := fun isWeb backslash =>
          rereads.held.unified isWeb item member (backslash ▸ inItem) }
    rw [path_replace made hierarchy fit, (walkPath_join_iff fit given).mpr rereads]

/-- The same for the text of the path. -/
theorem pathText_replace_rereads :
    (uri.replace items).pathText = pathOf items ↔ Rereads uri.scheme items := by
  rw [← path_replace_iff made hierarchy given stay single]
  have newMade : Made (uri.replace items) := made.withPath _
  obtain ⟨found, path, fit⟩ := exists_fit_path newMade (isLiteral_replace hierarchy items)
  rw [pathText, path, Path.text, ← segmentsText_of_ne_nil given]
  constructor
  · intro same
    have cut := splitOn_segmentsText fun item member slash => (fit item member '/' slash).single rfl
    rw [same, splitOn_segmentsText single] at cut
    have texts := (List.map_inj_right fun _ _ => String.toList_inj.mp).mp (List.cons.inj cut).2
    rw [texts]
  · intro same
    rw [Path.segments.inj same]

end Set

/-- Empty segments in front of the path of a file are dropped. -/
theorem trimFilePath_filled (segments : List String)
    (isHead : (trimFilePath segments).head? = some "") : trimFilePath segments = [""] := by
  have filled := List.head?_dropWhile_not (fun segment => decide (segment = "")) segments
  unfold trimFilePath at isHead ⊢
  cases kept : segments.dropWhile (· = "") with
  | nil => rfl
  | cons first rest =>
    rw [kept] at filled isHead
    have given : first ≠ "" := by simpa using filled
    exact absurd (Option.some.inj isHead) given

/-- However a file was made, no empty segment stands in front of others. -/
theorem kept_filled : Kept fun scheme path => ∀ items, path = .segments items → scheme = "file" →
    items.head? = some "" → items = [""] where
  literal _ _ _ isSegments := nomatch isSegments
  empty _ items same _ isHead := by
    cases same
    cases isHead
  blank _ items same _ _ := by
    cases same
    rfl
  walk text starts items same isFile isHead := by
    cases same
    unfold walkPath at isHead ⊢
    simp only [isFile, decide_true, if_true] at isHead ⊢
    exact trimFilePath_filled _ isHead

/-- What one scheme read is read as it is by another one, if neither is that of files and both are
of the web or neither is. -/
theorem Made.rereads {scope : Uri} (made : Made scope) {items : List String}
    (path : scope.path = .segments items) {scheme : String} (noFile : scheme ≠ "file")
    (noFileToo : scope.scheme ≠ "file") (kind : isWebScheme scheme = isWebScheme scope.scheme) :
    Rereads scheme items where
  held :=
    { lasting :=
        { proper := fun item member => (made.sound.path noFileToo items path item member).proper
          drive := fun inFile => absurd (of_decide_eq_true inFile) noFile }
      unified := fun isWeb item member backslash =>
        ((made.bears kept_fit).path items path item member _ backslash).unified (kind ▸ isWeb) rfl }
  filled isFile := absurd isFile noFile

end Switchboard.Uri
