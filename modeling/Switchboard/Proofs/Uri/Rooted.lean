import Switchboard.Proofs.Uri.Reread
/-!
Paths whose text begins with a slash.

Such a path is made of segments, and reading it again puts these together again: all of them come
back if they last. A dot that is written before them is left out. The drive letter of a file is its
first segment, if that is one.

* `Path.rooted?` are the segments of a path whose text begins with a slash.
* `Uri.filter_foldl_place_iff`: all segments come back just if they last.
* `Uri.filter_readPath`: what is read of the text of segments.
* `Uri.drive_walkPath_shown`: which file begins with a drive letter.
-/

namespace Switchboard

open Text

/-- The segments of a path whose text begins with a slash, and of one that is empty. -/
def Path.rooted? : Path → Option (List String)
  | .segments items => some items
  | .literal text => match text.toList with
    | '/' :: rest => some (split '/' (String.ofList rest))
    | _ => none

theorem Path.text_of_rooted? {path : Path} {items : List String}
    (rooted : path.rooted? = some items) : path.text = segmentsText items := by
  unfold rooted? at rooted
  split at rooted
  · rw [← Option.some.inj rooted]
    rfl
  · rename_i text
    split at rooted
    · rename_i rest isText
      rw [← Option.some.inj rooted, split, String.toList_ofList]
      have given : (splitOn '/' rest).map String.ofList ≠ [] := by simp [splitOn_ne_nil]
      rw [Uri.segmentsText_of_ne_nil given, ← String.toList_inj, Uri.pathOf, String.toList_append,
        Uri.toList_join, List.map_map]
      simp only [Function.comp_def, String.toList_ofList, List.map_id']
      rw [join_splitOn, Path.text, isText]
      rfl
    · cases rooted

namespace Uri

theorem segments_of_rooted? {uri : Uri} {items : List String}
    (rooted : uri.path.rooted? = some items) (single : ∀ item ∈ items, '/' ∉ item.toList) : uri.segments = items.filter (· ≠ "") := by
  rw [segments, split, pathText, Path.text_of_rooted? rooted, splitOn_segmentsText single]
  simp [Function.comp_def]

/-! ### Paths that are read again -/

/-- A dot that is put before a path is left out when it is read. -/
theorem place_dot (isFile : Bool) (above : List String) : place isFile false above "." = above := by
  have noDrive : isDriveLetter "." = false := by decide
  have isDot : isDoubleDot "." = false ∧ isSingleDot "." = true := by decide
  rw [place, noDrive, Bool.and_false, if_neg Bool.false_ne_true, addSegment, isDot.1, isDot.2]
  rfl

/-- **All segments that are given come back** just if they last. -/
theorem filter_foldl_place_iff {isFile : Bool} {items : List String} :
    (items.foldl (place isFile false) []).filter (· ≠ "") = items.filter (· ≠ "")
      ↔ Lasting isFile items := by
  constructor
  · intro same
    have counts : items.countP (· ≠ "")
        ≤ (items.foldl (place isFile false) []).countP (· ≠ "") := by
      rw [List.countP_eq_length_filter, List.countP_eq_length_filter]
      exact Nat.le_of_eq (congrArg List.length same.symm)
    have proper := proper_of_countP_le counts
    refine ⟨proper, fun inFile first isFirst drive => ?_⟩
    obtain ⟨rest, rfl⟩ : ∃ rest, items = first :: rest := by
      cases items with
      | nil => cases isFirst
      | cons other rest => exact ⟨rest, by rw [Option.some.inj isFirst]⟩
    rw [foldl_place_cons proper, if_pos (by simp [inFile, drive]),
      List.filter_cons_of_pos (by simpa using colonDrive_ne_empty first),
      List.filter_cons_of_pos (by simpa using ne_empty_of_isDriveLetter drive)] at same
    exact (colonDrive_eq_self_iff drive).mp (List.cons.inj same).1
  · intro lasting
    cases items with
    | nil => rfl
    | cons first rest => rw [foldl_place_cons lasting.proper, lasting.first_eq]

/-- Outside files no segment is told from others. -/
theorem lasting_outside_iff {items : List String} :
    Lasting false items ↔ ∀ item ∈ items, isProper item = true :=
  ⟨Lasting.proper, fun proper => ⟨proper, fun inFile => absurd inFile Bool.false_ne_true⟩⟩

theorem isProper_empty : isProper "" = true := by decide

/-- Only the first segment of a file is told from others, so an empty one in front makes them all
alike. -/
theorem lasting_empty_iff {isFile : Bool} {items : List String} :
    Lasting isFile ("" :: items) ↔ ∀ item ∈ items, isProper item = true := by
  have empty : isProper "" = true ∧ isDriveLetter "" = false := by decide
  refine ⟨fun lasting item member => lasting.proper item (List.mem_cons_of_mem _ member),
    fun proper => ⟨List.forall_mem_cons.mpr ⟨empty.1, proper⟩, fun _ first isFirst drive => ?_⟩⟩
  rw [← Option.some.inj isFirst, empty.2] at drive
  cases drive

section Read

variable {scheme : String} {items : List String} (fit : AllChars (Fit scheme) items)
include fit

/-- **A path that is written** is put together again of its segments. -/
theorem filter_readPath : (readPath scheme (Path.segmentsText items).toList).filter (· ≠ "")
    = (items.foldl (place (decide (scheme = "file")) false) []).filter (· ≠ "") := by
  by_cases nothing : items = []
  · rw [nothing]
    have slashless : ∀ isWeb, unifySlashes isWeb [] = [] := fun isWeb => by cases isWeb <;> rfl
    show (readPath scheme []).filter _ = _
    rw [readPath, slashless]
    dsimp only
    cases isWebScheme scheme <;> rfl
  · have isText : (Path.segmentsText items).toList = '/' :: (Text.join "/" items).toList := by
      rw [segmentsText_of_ne_nil nothing, pathOf, String.toList_append]
      rfl
    have unified : unifySlashes (isWebScheme scheme) (Path.segmentsText items).toList
        = '/' :: (Text.join "/" items).toList := by
      rw [isText]
      exact unifySlashes_eq_self <| List.forall_mem_cons.mpr
        ⟨fun _ => by decide, fun c member => (of_fit_join fit member).2⟩
    rw [readPath, unified]
    exact filter_walkPath_join fit

end Read

/-! ### Drive letters -/

/-- The drive letter of a file is the first segment that is put in its place. -/
theorem drive_addPiece {walk : Walk} (stemless : walk.stem = "") (isFile final : Bool)
    {piece : List Char} (whole : isFile = true → Walk.brokenDrive? piece = none) :
    (walk.addPiece isFile final piece).drive
      = (walk.drive || (isFile && walk.segments.isEmpty && isDriveLetter (segmentText piece))) := by
  unfold Walk.addPiece
  rw [if_neg (by simp [stemless])]
  by_cases first : isFile && walk.segments.isEmpty
  · rw [if_pos first, Walk.addFirst, whole (Bool.and_eq_true_iff.mp first).1, first, Bool.true_and]
    dsimp only
    split
    · rename_i drive
      rw [drive, Bool.or_true]
    · rename_i noDrive
      rw [eq_false_of_ne_true noDrive, Bool.or_false]
  · rw [if_neg first, eq_false_of_ne_true first, Bool.false_and, Bool.or_false]

section Drive

variable {walk : Walk} (stemless : walk.stem = "") {pieces : List (List Char)}
  (whole : ∀ piece ∈ pieces, Walk.brokenDrive? piece = none)
  (proper : ∀ piece ∈ pieces, isProper (segmentText piece) = true)
include stemless whole proper

/-- After a segment no drive letter is read. -/
theorem drive_addPieces_later (later : walk.segments ≠ []) :
    (walk.addPieces true pieces).drive = walk.drive := by
  induction pieces generalizing walk with
  | nil => rfl
  | cons piece rest ih =>
    obtain ⟨unbroken, others⟩ := List.forall_mem_cons.mp whole
    obtain ⟨isProper, properRest⟩ := List.forall_mem_cons.mp proper
    have step : ∀ final, (walk.addPiece true final piece).drive = walk.drive := by
      intro final
      rw [drive_addPiece stemless true final fun _ => unbroken, List.isEmpty_eq_false_iff.mpr later]
      simp
    cases rest with
    | nil => exact step true
    | cons next rest =>
      have filled : (walk.addPiece true false piece).segments ≠ [] := by
        rw [segments_addPiece stemless true false fun _ => unbroken, place,
          List.isEmpty_eq_false_iff.mpr later, Bool.and_false, Bool.false_and,
          if_neg Bool.false_ne_true, addSegment_of_proper isProper]
        simp
      exact (ih (stem_addPiece stemless true false fun _ => unbroken) others properRest filled).trans
        (step false)

/-- In the first place it is. -/
theorem drive_addPieces (first : walk.segments = []) (fresh : walk.drive = false) :
    (walk.addPieces true pieces).drive
      = pieces.head?.any fun piece => isDriveLetter (segmentText piece) := by
  cases pieces with
  | nil => exact fresh
  | cons piece rest =>
    obtain ⟨unbroken, others⟩ := List.forall_mem_cons.mp whole
    obtain ⟨isProper, properRest⟩ := List.forall_mem_cons.mp proper
    have step : ∀ final, (walk.addPiece true final piece).drive
        = isDriveLetter (segmentText piece) := by
      intro final
      rw [drive_addPiece stemless true final fun _ => unbroken, first, fresh]
      rfl
    cases rest with
    | nil => exact step true
    | cons next rest =>
      have filled : (walk.addPiece true false piece).segments ≠ [] := by
        rw [segments_addPiece stemless true false fun _ => unbroken, place, first]
        split
        · exact List.cons_ne_nil _ _
        · rw [addSegment_of_proper isProper]
          exact List.cons_ne_nil _ _
      exact (drive_addPieces_later (stem_addPiece stemless true false fun _ => unbroken) others
        properRest filled).trans (step false)

end Drive

/-- The segments of a path with the dot that is written before them. -/
def shown (dotted : Bool) (items : List String) : List String :=
  if dotted then "." :: items else items

theorem foldl_place_shown (isFile dotted : Bool) (above items : List String) :
    (shown dotted items).foldl (place isFile false) above
      = items.foldl (place isFile false) above := by
  cases dotted
  · rfl
  · rw [shown, if_pos rfl, List.foldl_cons, place_dot]

theorem fit_shown {scheme : String} {items : List String} (fit : AllChars (Fit scheme) items)
    (dotted : Bool) : AllChars (Fit scheme) (shown dotted items) := by
  have dot : ∀ c ∈ ".".toList, Fit scheme c := by
    intro c member
    obtain rfl := List.mem_singleton.mp (show c ∈ ['.'] from member)
    exact ⟨by decide, by decide, fun _ => by decide⟩
  cases dotted
  · exact fit
  · exact List.forall_mem_cons.mpr ⟨dot, fit⟩

/-- **The drive letter of a file** that is read again is its first segment, if that is one. -/
theorem drive_walkPath_shown {items : List String} (fit : AllChars (Fit "file") items)
    (proper : ∀ item ∈ items, isProper item = true) (dotted : Bool) :
    (walkPath "file" (.after []) (Text.join "/" (shown dotted items)).toList).drive
      = items.head?.any isDriveLetter := by
  have itself : ∀ item ∈ items, segmentText item.toList = item := fun item member =>
    written_eq_self fun c inItem => (fit item member c inItem).stays
  have unbroken : ∀ piece ∈ items.map String.toList, Walk.brokenDrive? piece = none := by
    intro piece member
    obtain ⟨item, isItem, rfl⟩ := List.mem_map.mp member
    exact brokenDrive?_eq_none fun c inItem => inner_of_stays_path (fit item isItem c inItem).stays
  have properPieces : ∀ piece ∈ items.map String.toList, isProper (segmentText piece) = true := by
    intro piece member
    obtain ⟨item, isItem, rfl⟩ := List.mem_map.mp member
    rw [itself item isItem]
    exact proper item isItem
  have stemless : (Walk.after []).stem = "" := rfl
  have pieces := drive_addPieces stemless unbroken properPieces rfl rfl
  have same : ((items.map String.toList).head?.any fun piece => isDriveLetter (segmentText piece))
      = items.head?.any isDriveLetter := by
    cases items with
    | nil => rfl
    | cons first rest =>
      rw [List.map_cons, List.head?_cons, List.head?_cons, Option.any_some, Option.any_some,
        itself first List.mem_cons_self]
  have whole : (walkPath "file" (.after []) (Text.join "/" (shown dotted items)).toList).drive
      = ((Walk.after []).addPieces true (splitOn '/'
          (unifySlashes (isWebScheme "file") (Text.join "/" (shown dotted items)).toList))).drive :=
    rfl
  rw [whole, unifySlashes_eq_self fun c member => (of_fit_join (fit_shown fit dotted) member).2,
    splitOn_join fun item member slash => (fit_shown fit dotted item member '/' slash).single rfl,
    ← same, ← pieces]
  cases dotted with
  | false =>
    cases items with
    | nil => rfl
    | cons first rest => rfl
  | true =>
    cases items with
    | nil => rfl
    | cons first rest =>
      have left : (Walk.after []).addPiece true false ".".toList = .after [] := rfl
      show (((Walk.after []).addPiece true false ".".toList).addPieces true _).drive = _
      rw [left]
      rfl

end Uri

end Switchboard
