import Switchboard.Proofs.Uri.Direct
/-!
Segments that are set as a path.

When segments are set, they are written as a path that is read again. All characters of a path that
was read stay, so only dots and the drive letter in the first place of a file can make a difference
then, and for the schemes of the web a backslash, which they read as a slash. Everything else stands
in the path as it was.

* `Uri.kept_fit`: the characters of every path that can be made can stand there.
* `Uri.foldl_place_eq_self_iff`: segments are put in their places as they are just if they last.
* `Uri.segments_replace_place`: the segments of a URI of which the segments were set.
* `Uri.pathText_replace_iff`: its path is that of the segments just if they are held.
-/

namespace Switchboard.Uri

open Text

/-! ### Characters of a path -/

/-- Says that a character can stand in a path that was read. -/
structure Fit (scheme : String) (c : Char) : Prop where
  stays : Percent.Stays Percent.path c
  single : c ≠ '/'
  unified : isWebScheme scheme = true → c ≠ '\\'

/-- Says that all characters of some segments have a property. -/
def AllChars (holds : Char → Prop) (segments : List String) : Prop :=
  ∀ segment ∈ segments, ∀ c ∈ segment.toList, holds c

section Chars

variable {holds : Char → Prop} {segments : List String} {segment : String}

theorem AllChars.concat (before : AllChars holds segments)
    (last : ∀ c ∈ segment.toList, holds c) : AllChars holds (segments ++ [segment]) := by
  intro other member
  rcases List.mem_append.mp member with early | isLast
  · exact before other early
  · obtain rfl := List.mem_singleton.mp isLast
    exact last

theorem allChars_singleton (all : ∀ c ∈ segment.toList, holds c) : AllChars holds [segment] := by
  intro other member
  obtain rfl := List.mem_singleton.mp member
  exact all

theorem AllChars.mono {fewer : List String} (before : AllChars holds segments)
    (subset : fewer ⊆ segments) : AllChars holds fewer :=
  fun other member => before other (subset member)

theorem AllChars.empty (before : AllChars holds segments) : AllChars holds (segments ++ [""]) :=
  before.concat fun _ absent => by cases absent

theorem dropLastSegment_subset (segments : List String) : dropLastSegment segments ⊆ segments := by
  unfold dropLastSegment
  split
  · split
    · exact List.Subset.refl _
    · exact List.dropLast_subset _
  · exact List.nil_subset _

theorem AllChars.addSegment (before : AllChars holds segments) (final : Bool)
    (all : ∀ c ∈ segment.toList, holds c) : AllChars holds (addSegment final segments segment) := by
  have above := before.mono (dropLastSegment_subset segments)
  unfold Uri.addSegment
  split
  · dsimp only
    split
    · exact above.empty
    · exact above
  · split
    · split
      · exact before.empty
      · exact before
    · exact before.concat all

end Chars

/-- Says that all characters of a walk have a property. -/
structure Walk.Has (holds : Char → Prop) (walk : Walk) : Prop where
  segments : AllChars holds walk.segments
  stem : ∀ c ∈ walk.stem.toList, holds c

/-- A letter is ASCII, so it is written as it is. -/
theorem of_isAlpha {c : Char} (alpha : c.isAlpha = true) :
    Percent.writeChar Percent.path c = [c] ∧ isBreak c = false := by
  have small : c.toNat < 0x80 := by
    rcases Bool.or_eq_true_iff.mp alpha with upper | lower
    · have within : c.toNat ≤ 90 := (of_decide_eq_true upper).2
      omega
    · have within : c.toNat ≤ 122 := of_decide_eq_true (Bool.and_eq_true_iff.mp lower).2
      omega
  have all : ∀ n ∈ List.range 0x80, (Char.ofNat n).isAlpha = true →
      Percent.writeChar Percent.path (Char.ofNat n) = [Char.ofNat n] ∧
        isBreak (Char.ofNat n) = false := by decide +kernel
  have found := all c.toNat (List.mem_range.mpr small)
  rw [Char.ofNat_toNat] at found
  exact found alpha

/-- A drive letter that a break ends is written as it is, and so is what comes after the break. -/
theorem segmentText_of_brokenDrive {piece rest : List Char} {drive : String}
    (broken : Walk.brokenDrive? piece = some (drive, rest)) :
    (segmentText piece).toList = drive.toList ++ (segmentText rest).toList := by
  unfold Walk.brokenDrive? at broken
  split at broken
  · rename_i letter c after
    split at broken
    · rename_i isDrive
      cases broken
      simp only [Bool.and_eq_true] at isDrive
      obtain ⟨kept, unbroken⟩ := of_isAlpha isDrive.1.1
      have colon : Percent.writeChar Percent.path ':' = [':'] := by decide
      -- Only the break is dropped: the letter and the colon are no breaks and need no escape.
      have colonStays : isBreak ':' = false := by decide
      have isPlain : plain (letter :: ':' :: c :: rest) = letter :: ':' :: plain rest := by
        simp [plain, unbroken, isDrive.1.2, colonStays]
      rw [segmentText, isPlain, String.toList_ofList]
      show Percent.writeChar Percent.path letter ++ (Percent.writeChar Percent.path ':'
        ++ Percent.write Percent.path (plain rest)) = _
      rw [kept, colon, segmentText, String.toList_ofList, String.toList_ofList]
      rfl
    · cases broken
  · cases broken

namespace Walk.Has

variable {holds : Char → Prop} {walk : Walk}

theorem withSegments (has : walk.Has holds) {segments : List String}
    (all : AllChars holds segments) : Walk.Has holds { walk with segments } :=
  ⟨all, has.stem⟩

theorem addToStem (has : walk.Has holds) (final : Bool) {segment : String}
    (all : ∀ c ∈ segment.toList, holds c) : (walk.addToStem final segment).Has holds := by
  have withStem := has.segments.concat has.stem
  have whole : ∀ c ∈ (walk.stem ++ segment).toList, holds c := by
    intro c member
    rw [String.toList_append] at member
    rcases List.mem_append.mp member with inStem | inSegment
    · exact has.stem c inStem
    · exact all c inSegment
  refine ⟨?_, fun c absent => by cases absent⟩
  unfold Walk.addToStem
  dsimp only
  split
  · exact withStem
  · split
    · cases final
      · simpa using withStem
      · exact withStem.empty
    · exact has.segments.concat whole

theorem addFirst (has : walk.Has holds) (colon : holds ':') (final : Bool) {piece : List Char}
    (all : ∀ c ∈ (segmentText piece).toList, holds c) : (walk.addFirst final piece).Has holds := by
  have added := has.segments.addSegment final all
  unfold Walk.addFirst
  split
  · rename_i drive rest broken
    rw [segmentText_of_brokenDrive broken] at all
    have front : AllChars holds [drive] :=
      allChars_singleton fun c member => all c (List.mem_append_left _ member)
    exact has.withSegments (front.concat fun c member => all c (List.mem_append_right _ member))
  · dsimp only
    split
    · refine ⟨allChars_singleton fun c member => ?_, has.stem⟩
      rw [String.toList_ofList] at member
      rcases List.mem_append.mp member with isLetter | isColon
      · exact all c (List.mem_of_mem_take isLetter)
      · obtain rfl := List.mem_singleton.mp isColon
        exact colon
    · exact has.withSegments added

theorem addPiece (has : walk.Has holds) (colon : holds ':') (isFile final : Bool)
    {piece : List Char} (all : ∀ c ∈ (segmentText piece).toList, holds c) :
    (walk.addPiece isFile final piece).Has holds := by
  have added := has.segments.addSegment final all
  unfold Walk.addPiece
  split
  · exact has.addToStem final all
  · split
    · exact has.addFirst colon final all
    · exact has.withSegments added

theorem addPieces (has : walk.Has holds) (colon : holds ':') (isFile : Bool)
    {pieces : List (List Char)}
    (all : ∀ piece ∈ pieces, ∀ c ∈ (segmentText piece).toList, holds c) :
    (walk.addPieces isFile pieces).Has holds := by
  induction pieces generalizing walk with
  | nil => exact has
  | cons piece rest ih =>
    obtain ⟨first, others⟩ := List.forall_mem_cons.mp all
    cases rest with
    | nil => exact has.addPiece colon isFile true first
    | cons next rest => exact ih (has.addPiece colon isFile false first) others

end Walk.Has

theorem fit_of_mem_segmentText {scheme : String} {text piece : List Char}
    (isPiece : piece ∈ splitOn '/' (unifySlashes (isWebScheme scheme) text)) {c : Char}
    (member : c ∈ (segmentText piece).toList) : Fit scheme c := by
  have stays := stays_of_mem_segmentText member
  rw [segmentText, String.toList_ofList] at member
  rcases Percent.of_mem_write member with ⟨inPlain, -⟩ | isCode
  · have inPiece := (List.mem_filter.mp inPlain).1
    refine ⟨stays, ?_, fun isWeb => ?_⟩
    · rintro rfl
      exact not_mem_of_mem_splitOn isPiece inPiece
    · rintro rfl
      have inText := mem_of_mem_splitOn isPiece inPiece
      rw [isWeb] at inText
      obtain ⟨d, -, same⟩ := List.mem_map.mp inText
      split at same
      · exact absurd same (by decide)
      · rename_i differs
        exact differs (beq_iff_eq.mpr same)
  · refine ⟨stays, ?_, fun _ => ?_⟩
    · rintro rfl
      exact absurd isCode (by decide)
    · rintro rfl
      exact absurd isCode (by decide)

theorem trimFilePath_subset (segments : List String) :
    ∀ segment ∈ trimFilePath segments, segment ∈ segments ∨ segment = "" := by
  intro segment member
  unfold trimFilePath at member
  split at member
  · exact Or.inr (List.mem_singleton.mp member)
  · exact Or.inl ((List.dropWhile_sublist _).subset member)

/-- **Whatever path is read**, from where a walk of such characters has come to, its characters can
stand there. -/
theorem Walk.Has.walkPath {scheme : String} {start : Walk} (has : start.Has (Fit scheme))
    (text : List Char) : AllChars (Fit scheme) (walkPath scheme start text).segments := by
  have colon : Fit scheme ':' := ⟨by decide, by decide, fun _ => by decide⟩
  have all : ∀ piece ∈ splitOn '/' (unifySlashes (isWebScheme scheme) text),
      ∀ c ∈ (segmentText piece).toList, Fit scheme c :=
    fun piece isPiece c member => fit_of_mem_segmentText isPiece member
  have added := (has.addPieces colon (decide (scheme = "file")) all).segments
  unfold Uri.walkPath
  dsimp only
  split
  · intro segment member
    rcases trimFilePath_subset _ segment member with early | rfl
    · exact added segment early
    · exact fun c absent => by cases absent
  · exact added

/-- However a URI was made, the characters of its path can stand there. -/
theorem kept_fit :
    Kept fun scheme path => ∀ items, path = .segments items → AllChars (Fit scheme) items where
  literal _ _ _ isSegments := nomatch isSegments
  empty _ items same := by
    cases same
    exact fun _ absent => nomatch absent
  blank _ items same := by
    cases same
    exact allChars_singleton fun _ absent => by cases absent
  walk {scheme start} text starts items same := by
    cases same
    apply Walk.Has.walkPath
    have noStem : ∀ c ∈ ("" : String).toList, Fit scheme c := fun _ absent => by cases absent
    cases starts with
    | root => exact ⟨(List.forall_mem_nil _), noStem⟩
    | beside on => exact ⟨(on _ rfl).mono (List.dropLast_subset _), noStem⟩
    | drive isFile on =>
      exact ⟨(on _ rfl).mono (List.cons_subset_cons _ (List.nil_subset _)), noStem⟩
    | stem isFile on isLast =>
      exact ⟨(on _ rfl).mono (List.dropLast_subset _), on _ rfl _ (List.mem_of_getLast? isLast)⟩

/-! ### Segments that last -/

/-- **Says that segments last when they are read again**: none of them is dots, and a drive letter
in the first place of a file has its colon already. -/
structure Lasting (isFile : Bool) (segments : List String) : Prop where
  proper : ∀ segment ∈ segments, isProper segment = true
  drive : isFile = true → ∀ first ∈ segments.head?, isDriveLetter first = true →
    isPlainDrive first = true

theorem lasting_nil (isFile : Bool) : Lasting isFile [] where
  proper := List.forall_mem_nil _
  drive _ first isFirst := by cases isFirst

theorem colonDrive_eq_self_iff {segment : String} (drive : isDriveLetter segment = true) :
    colonDrive segment = segment ↔ isPlainDrive segment = true := by
  unfold isDriveLetter at drive
  split at drive
  · rename_i letter mark text
    rw [colonDrive, isPlainDrive, text, ← String.toList_inj, text]
    simp only [Bool.and_eq_true] at drive
    by_cases colon : mark = ':'
    · simp [colon, drive.1]
    · simp [colon, Ne.symm colon]
  · cases drive

theorem colonDrive_ne_empty (segment : String) : colonDrive segment ≠ "" := by
  intro empty
  have chars := congrArg String.toList empty
  simp [colonDrive] at chars

/-- Of segments without dots only the first one can be written anew. -/
theorem foldl_place_cons {isFile : Bool} {first : String} {rest : List String}
    (proper : ∀ item ∈ first :: rest, isProper item = true) :
    (first :: rest).foldl (place isFile false) []
      = (if isFile && isDriveLetter first then colonDrive first else first) :: rest := by
  obtain ⟨isProper, others⟩ := List.forall_mem_cons.mp proper
  rw [List.foldl_cons, place, addSegment_of_proper isProper]
  split
  · rename_i drive
    rw [foldl_place_of_proper (fun _ => List.cons_ne_nil _ _) others, if_pos (by simpa using drive)]
    rfl
  · rename_i noDrive
    rw [List.nil_append, foldl_place_of_proper (fun _ => List.cons_ne_nil _ _) others,
      if_neg (by simpa using noDrive)]
    rfl

theorem Lasting.first_eq {isFile : Bool} {first : String} {rest : List String}
    (lasting : Lasting isFile (first :: rest)) :
    (if isFile && isDriveLetter first then colonDrive first else first) = first := by
  split
  · rename_i drive
    obtain ⟨inFile, drive⟩ := Bool.and_eq_true_iff.mp drive
    exact (colonDrive_eq_self_iff drive).mpr (lasting.drive inFile first rfl drive)
  · rfl

/-- **Segments are put in their places as they are** just if they last. -/
theorem foldl_place_eq_self_iff {isFile : Bool} {items : List String}
    (given : ∀ item ∈ items, item ≠ "") :
    (items.foldl (place isFile false) []).filter (· ≠ "") = items ↔ Lasting isFile items := by
  cases items with
  | nil => exact ⟨fun _ => ⟨List.forall_mem_nil _, fun _ _ absent => nomatch absent⟩, fun _ => rfl⟩
  | cons first rest =>
    constructor
    · intro same
      -- Nothing is lost, so no segment stands for another one.
      have kept := List.length_filter_le (fun item => decide (item ≠ ""))
        ((first :: rest).foldl (place isFile false) [])
      rw [same] at kept
      have proper := proper_of_length_le kept
      refine ⟨proper, fun inFile other isFirst drive => ?_⟩
      obtain rfl := Option.some.inj isFirst
      rw [foldl_place_cons proper, if_pos (by simp [inFile, drive]),
        List.filter_cons_of_pos (by simpa using colonDrive_ne_empty first)] at same
      exact (colonDrive_eq_self_iff drive).mp (List.cons.inj same).1
    · intro lasting
      rw [foldl_place_cons lasting.proper, lasting.first_eq, List.filter_eq_self]
      simpa using given

/-! ### Setting segments -/

/-- What is written has no breaks. -/
theorem brokenDrive?_eq_none {piece : List Char} (inner : ∀ c ∈ piece, Inner c) :
    Walk.brokenDrive? piece = none := by
  unfold Walk.brokenDrive?
  split
  · rename_i letter c rest
    have unbroken : isBreak c = false := isBreak_eq_false_of_inner (inner c (by simp))
    simp [unbroken]
  · rfl

theorem of_fit_join {scheme : String} {items : List String} (fit : AllChars (Fit scheme) items)
    {c : Char} (member : c ∈ (Text.join "/" items).toList) :
    Inner c ∧ (isWebScheme scheme = true → c ≠ '\\') := by
  rw [toList_join] at member
  rcases of_mem_joinWith member with rfl | ⟨piece, isPiece, inPiece⟩
  · exact ⟨by decide, fun _ => by decide⟩
  · obtain ⟨item, isItem, rfl⟩ := List.mem_map.mp isPiece
    have fits := fit item isItem c inPiece
    exact ⟨inner_of_stays_path fits.stays, fits.unified⟩

theorem unifySlashes_eq_self {isWeb : Bool} {text : List Char}
    (unified : ∀ c ∈ text, isWeb = true → c ≠ '\\') : unifySlashes isWeb text = text := by
  unfold unifySlashes
  split
  · rename_i web
    have same : ∀ c ∈ text, (if c == '\\' then '/' else c) = c :=
      fun c member => if_neg (by simpa using unified c member web)
    rw [List.map_congr_left same, List.map_id']
  · rfl

theorem filter_trimFilePath (segments : List String) :
    (trimFilePath segments).filter (· ≠ "") = segments.filter (· ≠ "") := by
  have dropped : (segments.dropWhile (· = "")).filter (· ≠ "") = segments.filter (· ≠ "") := by
    induction segments with
    | nil => rfl
    | cons segment rest ih =>
      by_cases empty : segment = ""
      · simpa [empty] using ih
      · simp [empty]
  rw [← dropped]
  unfold trimFilePath
  split
  · rename_i nothing
    rw [nothing]
    rfl
  · rfl

/-- A path of segments that are given has nothing in front to drop. -/
theorem trimFilePath_of_given {items : List String} (given : ∀ item ∈ items, item ≠ "") :
    trimFilePath (if items = [] then [""] else items) = if items = [] then [""] else items := by
  cases items with
  | nil => decide
  | cons first rest =>
    have notEmpty : first ≠ "" := given first List.mem_cons_self
    simp [trimFilePath, notEmpty]

/-- Segments that last are put in their places as they are. -/
theorem foldl_place_of_lasting {isFile : Bool} {items : List String}
    (lasting : Lasting isFile items) :
    (if items = [] then [""] else items).foldl (place isFile false) []
      = if items = [] then [""] else items := by
  cases items with
  | nil => cases isFile <;> decide
  | cons first rest =>
    rw [if_neg (List.cons_ne_nil first rest), foldl_place_cons lasting.proper, lasting.first_eq]

/-- Up to empty segments, what is read is what the pieces of a path are put together to. -/
theorem filter_walkPath (scheme : String) (start : Walk) (text : List Char) :
    (walkPath scheme start text).segments.filter (· ≠ "")
      = (start.addPieces (decide (scheme = "file"))
          (splitOn '/' (unifySlashes (isWebScheme scheme) text))).segments.filter (· ≠ "") := by
  unfold walkPath
  dsimp only
  split
  · exact filter_trimFilePath _
  · rfl

section Join

variable {scheme : String} {items : List String} (fit : AllChars (Fit scheme) items)
include fit

/-- The pieces of joined segments are written as these are. Without segments one piece is empty. -/
theorem map_segmentText_join :
    (splitOn '/' (unifySlashes (isWebScheme scheme) (Text.join "/" items).toList)).map segmentText
      = if items = [] then [""] else items := by
  have unified := unifySlashes_eq_self fun c member => (of_fit_join fit member).2
  have itself : items.map written = items :=
    (List.map_congr_left fun item isItem =>
      written_eq_self fun c member => (fit item isItem c member).stays).trans (List.map_id items)
  rw [unified, splitOn_join fun item isItem slash => (fit item isItem '/' slash).single rfl]
  split
  · decide
  · rw [List.map_map]
    exact itself

theorem brokenDrive?_of_mem_join (piece : List Char) (isPiece : piece ∈ splitOn '/'
    (unifySlashes (isWebScheme scheme) (Text.join "/" items).toList)) :
    Walk.brokenDrive? piece = none := by
  rw [unifySlashes_eq_self fun c member => (of_fit_join fit member).2] at isPiece
  exact brokenDrive?_eq_none fun c member =>
    (of_fit_join fit (mem_of_mem_splitOn isPiece member)).1

/-- A path of segments that can stand there is put together again. -/
theorem filter_walkPath_join :
    (walkPath scheme (.after []) (Text.join "/" items).toList).segments.filter (· ≠ "")
      = (items.foldl (place (decide (scheme = "file")) false) []).filter (· ≠ "") := by
  have stemless : (Walk.after []).stem = "" := rfl
  have unbroken := fun (_ : decide (scheme = "file") = true) piece =>
    brokenDrive?_of_mem_join fit piece
  rw [filter_walkPath, filter_addPieces stemless unbroken, map_segmentText_join fit]
  -- Without segments there is one empty piece, and the filter drops what it becomes.
  split
  · rename_i nothing
    subst nothing
    generalize decide (scheme = "file") = isFile
    cases isFile <;> decide
  · rfl

/-- **Segments that last are read as they are.** Without any there is an empty one. -/
theorem walkPath_join_of_lasting (given : ∀ item ∈ items, item ≠ "")
    (lasting : Lasting (decide (scheme = "file")) items) :
    (walkPath scheme (.after []) (Text.join "/" items).toList).segments
      = if items = [] then [""] else items := by
  have stemless : (Walk.after []).stem = "" := rfl
  have unbroken := fun (_ : decide (scheme = "file") = true) piece =>
    brokenDrive?_of_mem_join fit piece
  have isWritten := map_segmentText_join fit
  have proper : ∀ segment ∈ if items = [] then [""] else items, isProper segment = true := by
    split
    · decide
    · exact lasting.proper
  rw [← isWritten] at proper
  have added := segments_addPieces_of_proper stemless unbroken (List.forall_mem_map.mp proper)
  rw [isWritten] at added
  have whole := added.trans (foldl_place_of_lasting lasting)
  unfold walkPath
  dsimp only
  split
  · exact (congrArg trimFilePath whole).trans (trimFilePath_of_given given)
  · exact whole

end Join

/-! ### Segments that are held -/

/-- Says that texts can be the segments of a path. -/
def AreSegments (items : List String) : Prop := ∀ item ∈ items, item ≠ "" ∧ '/' ∉ item.toList

instance (items : List String) : Decidable (AreSegments items) :=
  inferInstanceAs (Decidable (∀ _ ∈ items, _ ∧ _))

/-- The text of a path of segments; without any it is the root. -/
def pathOf (items : List String) : String := "/" ++ Text.join "/" items

/-- **Says that a URI of a scheme holds segments as they are** when they are set: they last, and for
the schemes of the web they have no backslash, which is a slash there. -/
structure Held (scheme : String) (items : List String) : Prop where
  lasting : Lasting (decide (scheme = "file")) items
  unified : isWebScheme scheme = true → ∀ item ∈ items, '\\' ∉ item.toList

theorem held_nil (scheme : String) : Held scheme [] := ⟨lasting_nil _, fun _ => List.forall_mem_nil _⟩

theorem segmentsText_of_ne_nil {items : List String} (given : items ≠ []) :
    Path.segmentsText items = pathOf items := by
  induction items with
  | nil => exact absurd rfl given
  | cons item rest ih =>
    cases rest with
    | nil => simp [Path.segmentsText, pathOf, Text.join]
    | cons next rest =>
      show "/" ++ item ++ Path.segmentsText (next :: rest)
        = "/" ++ (item ++ "/" ++ Text.join "/" (next :: rest))
      rw [ih (List.cons_ne_nil next rest), pathOf]
      simp only [String.append_assoc]

theorem segmentsText_append (front rest : List String) :
    Path.segmentsText (front ++ rest) = Path.segmentsText front ++ Path.segmentsText rest := by
  induction front with
  | nil => simp [Path.segmentsText]
  | cons item others ih =>
    show "/" ++ item ++ Path.segmentsText (others ++ rest)
      = "/" ++ item ++ Path.segmentsText others ++ Path.segmentsText rest
    rw [ih]
    simp only [String.append_assoc]

theorem pathOf_append {front rest : List String} (given : front ≠ []) :
    pathOf (front ++ rest) = pathOf front ++ Path.segmentsText rest := by
  have more : front ++ rest ≠ [] := fun nothing => given (List.append_eq_nil_iff.mp nothing).1
  rw [← segmentsText_of_ne_nil more, segmentsText_append, segmentsText_of_ne_nil given]

/-- A path is cut into its segments, after what stands before its first slash. -/
theorem split_pathOf {items : List String} (given : items ≠ [])
    (single : ∀ item ∈ items, '/' ∉ item.toList) : split '/' (pathOf items) = "" :: items := by
  rw [← segmentsText_of_ne_nil given, split, splitOn_segmentsText single]
  simp [Function.comp_def]

/-- The segments in the text of a path are found again. -/
theorem filter_split_pathOf {items : List String}
    (areSegments : AreSegments items) :
    (split '/' (pathOf items)).filter (· ≠ "") = items := by
  by_cases nothing : items = []
  · rw [nothing]
    decide
  · rw [split_pathOf nothing fun item member => (areSegments item member).2]
    exact List.filter_eq_self.mpr fun item member => decide_eq_true (areSegments item member).1

/-- Segments that are the text of a path are its segments. -/
theorem segments_of_pathText {uri : Uri} {items : List String} (text : uri.pathText = pathOf items)
    (areSegments : AreSegments items) : uri.segments = items := by
  rw [segments, text]
  exact filter_split_pathOf areSegments

/-! ### The path of a URI -/

/-- Setting the segments of a hierarchy changes its path alone. -/
theorem replace_path {uri : Uri} (hierarchy : uri.isLiteral = false) (items : List String) :
    uri.replace items = { uri with path := (uri.replace items).path } := by
  obtain ⟨old, isOld⟩ := exists_path hierarchy
  simp only [replace, withPath, isOld]

theorem scheme_replace {uri : Uri} (hierarchy : uri.isLiteral = false) (items : List String) :
    (uri.replace items).scheme = uri.scheme := by
  rw [replace_path hierarchy]

theorem isLiteral_replace {uri : Uri} (hierarchy : uri.isLiteral = false) (items : List String) :
    (uri.replace items).isLiteral = false := by
  obtain ⟨old, isOld⟩ := exists_path hierarchy
  simp only [replace, withPath, isOld, isLiteral]

section Set

variable {uri : Uri} (made : Made uri) (hierarchy : uri.isLiteral = false)
include made hierarchy

theorem exists_fit_path :
    ∃ items, uri.path = .segments items ∧ AllChars (Fit uri.scheme) items := by
  obtain ⟨items, path⟩ := exists_path hierarchy
  exact ⟨items, path, (made.bears kept_fit).path items path⟩

/-- The segments of a path that was read can stand there. -/
theorem segments_fit : AllChars (Fit uri.scheme) uri.segments := by
  obtain ⟨items, path, fit⟩ := exists_fit_path made hierarchy
  rw [segments_eq path fun item member slash => (fit item member '/' slash).single rfl]
  exact fit.mono List.filter_sublist.subset

/-- **Segments that are set** and can stand there are read as the whole path. -/
theorem path_replace {items : List String} (fit : AllChars (Fit uri.scheme) items) :
    (uri.replace items).path = .segments
      (walkPath uri.scheme (.after []) (Text.join "/" items).toList).segments := by
  obtain ⟨old, isOld, -⟩ := exists_fit_path made hierarchy
  have inner : ∀ c ∈ '/' :: (Text.join "/" items).toList, Inner c :=
    List.forall_mem_cons.mpr ⟨by decide, fun c member => (of_fit_join fit member).1⟩
  have unified : unifySlashes (isWebScheme uri.scheme) ('/' :: (Text.join "/" items).toList)
      = '/' :: (Text.join "/" items).toList :=
    unifySlashes_eq_self <| List.forall_mem_cons.mpr
      ⟨fun _ => by decide, fun c member => (of_fit_join fit member).2⟩
  have text : ("/" ++ Text.join "/" items).toList = '/' :: (Text.join "/" items).toList := by
    rw [String.toList_append]
    rfl
  simp only [replace, withPath, isOld, text, dropBreaks_of_inner inner]
  simp [readPath, unified, readPathFrom]

/-- They are put in their places. -/
theorem segments_replace_place {items : List String} (fit : AllChars (Fit uri.scheme) items) :
    (uri.replace items).segments
      = (items.foldl (place (decide (uri.scheme = "file")) false) []).filter (· ≠ "") := by
  have path := path_replace made hierarchy fit
  have setMade : Made (uri.replace items) := made.withPath _
  have newFit := (setMade.bears kept_fit).path _ path
  rw [segments_eq path fun item member slash => (newFit item member '/' slash).single rfl]
  exact filter_walkPath_join fit

/-- **The path of a URI is that of the segments that were set** just if these are held. -/
theorem pathText_replace_iff {items : List String}
    (areSegments : AreSegments items)
    (stay : AllChars (Percent.Stays Percent.path) items) :
    (uri.replace items).pathText = pathOf items ↔ Held uri.scheme items := by
  have given := fun item member => (areSegments item member).1
  constructor
  · intro text
    have newMade : Made (uri.replace items) := made.withPath _
    have newHierarchy := isLiteral_replace hierarchy items
    have newSegments := segments_of_pathText text areSegments
    have fit := segments_fit newMade newHierarchy
    rw [newSegments, scheme_replace hierarchy] at fit
    refine ⟨?_, fun isWeb item member backslash => (fit item member _ backslash).unified isWeb rfl⟩
    rw [segments_replace_place made hierarchy fit] at newSegments
    exact (foldl_place_eq_self_iff given).mp newSegments
  · intro held
    have fit : AllChars (Fit uri.scheme) items := fun item member c inItem =>
      { stays := stay item member c inItem
        single := fun slash => (areSegments item member).2 (slash ▸ inItem)
        unified := fun isWeb backslash => held.unified isWeb item member (backslash ▸ inItem) }
    rw [pathText, path_replace made hierarchy fit, walkPath_join_of_lasting fit given held.lasting]
    split
    · rename_i nothing
      rw [nothing]
      decide
    · rename_i something
      exact segmentsText_of_ne_nil something

/-- Outside files segments last. -/
theorem lasting_segments (noFile : uri.scheme ≠ "file") :
    Lasting (decide (uri.scheme = "file")) uri.segments :=
  ⟨fun segment member => (made.sound.settled noFile hierarchy segment member).proper,
    fun isFile => absurd (of_decide_eq_true isFile) noFile⟩

end Set

end Switchboard.Uri
