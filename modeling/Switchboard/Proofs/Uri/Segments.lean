import Switchboard.Proofs.Text.Cuts
import Switchboard.Proofs.Text.Escapes
import Switchboard.Uri.Edit
/-!
The segments of a path that is read.

A path is read piece by piece. What a segment may not hold is written as bytes, dots are followed,
and in the first place of a file a drive letter is written with a colon. Outside files a segment is
settled if nothing of this does anything to it: what is read is settled, and what is settled is read
as it is.

* `Uri.filter_addPieces`: the pieces of a path are put in their places one after the other.
* `Uri.segments_eq`: the segments of a path are the items that it is made of, without empty ones.
* `Uri.settled_of_mem_readPathFrom`: what is read outside files is settled.
* `Uri.segments_replace`: the segments of a URI of which the segments were set.
* `Uri.follow_eq_self_iff`: they are those that were given, just if these are settled.
-/

namespace Switchboard.Uri

open Text

/-! ### Settled segments -/

/-- A segment as it is written in a path. -/
def written (segment : String) : String := segmentText segment.toList

/-- **Says that a path holds a segment as it is**: it is one segment, it is written as it is, and it
is none of those that stand for another one. -/
structure Settled (segment : String) : Prop where
  single : '/' ∉ segment.toList
  written_eq : written segment = segment
  notAbove : isDoubleDot segment = false
  notHere : isSingleDot segment = false

/-- Says whether a segment is none of those that stand for another one. -/
def isProper (segment : String) : Bool := !isDoubleDot segment && !isSingleDot segment

theorem isProper_iff {segment : String} : isProper segment = true ↔
    isDoubleDot segment = false ∧ isSingleDot segment = false := by
  simp [isProper]

theorem Settled.proper {segment : String} (settled : Settled segment) : isProper segment = true :=
  isProper_iff.mpr ⟨settled.notAbove, settled.notHere⟩

/-- The segments that come of those above and those that follow, of which two dots remove the one
before and one dot stands for nothing. -/
def follow (above : List String) : List String → List String
  | [] => above
  | segment :: rest =>
    if isDoubleDot segment then follow (dropLastSegment above) rest
    else if isSingleDot segment then follow above rest
    else follow (above ++ [segment]) rest

/-- Dots are followed one segment after the other. -/
theorem follow_cons (above : List String) (segment : String) (rest : List String) :
    follow above (segment :: rest) = follow (addSegment false above segment) rest := by
  rw [follow]
  unfold addSegment
  by_cases isAbove : isDoubleDot segment = true
  · simp [isAbove]
  · by_cases isHere : isSingleDot segment = true
    · simp [isAbove, isHere]
    · simp [isAbove, isHere]

/-! ### Segments in their place -/

/-- The letter of a segment with a colon. -/
def colonDrive (segment : String) : String := String.ofList (segment.toList.take 1 ++ [':'])

/-- Puts a segment after those above, where a drive letter in the first place of a file is written
with a colon. -/
def place (isFile final : Bool) (above : List String) (segment : String) : List String :=
  if isFile && above.isEmpty && isDriveLetter segment then [colonDrive segment]
  else addSegment final above segment

/-- Whether a segment is the last one makes no difference but for an empty one after it. -/
theorem filter_place (isFile final : Bool) (above : List String) (segment : String) :
    (place isFile final above segment).filter (· ≠ "")
      = (place isFile false above segment).filter (· ≠ "") := by
  cases final
  · rfl
  · unfold place addSegment
    split
    · rfl
    · split
      · simp
      · split <;> simp

theorem addSegment_of_proper {segment : String} (proper : isProper segment = true) (final : Bool)
    (above : List String) : addSegment final above segment = above ++ [segment] := by
  obtain ⟨notAbove, notHere⟩ := isProper_iff.mp proper
  simp [addSegment, notAbove, notHere]

theorem isProper_of_isDriveLetter {segment : String} (drive : isDriveLetter segment = true) :
    isProper segment = true := by
  unfold isDriveLetter at drive
  split at drive
  · rename_i letter mark text
    have noDot : mark.toLower ≠ '.' := by
      simp only [Bool.and_eq_true, Bool.or_eq_true, beq_iff_eq] at drive
      rcases drive.2 with rfl | rfl <;> decide
    have letters : (lower segment).toList = [letter.toLower, mark.toLower] := by
      rw [toList_lower, text]
      rfl
    refine isProper_iff.mpr ⟨?_, ?_⟩
    · simp [isDoubleDot, ← String.toList_inj, letters, noDot]
    · simp [isSingleDot, ← String.toList_inj, letters]
  · cases drive

theorem length_dropLastSegment_le (segments : List String) :
    (dropLastSegment segments).length ≤ segments.length := by
  unfold dropLastSegment
  split
  · split
    · exact Nat.le_refl _
    · simp
  · simp

theorem length_place_le (isFile : Bool) (above : List String) (segment : String) :
    (place isFile false above segment).length
      ≤ above.length + if isProper segment = true then 1 else 0 := by
  have dropped := length_dropLastSegment_le above
  unfold place
  split
  · rename_i isFirst
    simp only [Bool.and_eq_true] at isFirst
    simp [isProper_of_isDriveLetter isFirst.2]
  · unfold addSegment
    by_cases isAbove : isDoubleDot segment = true
    · simp [isAbove, isProper, dropped]
    · by_cases isHere : isSingleDot segment = true
      · simp [isAbove, isHere, isProper]
      · simp [isAbove, isHere, isProper]

theorem length_foldl_place_le (isFile : Bool) (above items : List String) :
    (items.foldl (place isFile false) above).length ≤ above.length + items.countP isProper := by
  induction items generalizing above with
  | nil => exact Nat.le_refl _
  | cons item rest ih =>
    have first := length_place_le isFile above item
    have later := ih (place isFile false above item)
    rw [List.foldl_cons, List.countP_cons]
    omega

/-- Segments without dots are put one after the other, in a file after the first one. -/
theorem foldl_place_of_proper {isFile : Bool} {above items : List String}
    (later : isFile = true → above ≠ [])
    (proper : ∀ item ∈ items, isProper item = true) :
    items.foldl (place isFile false) above = above ++ items := by
  induction items generalizing above with
  | nil => simp
  | cons item rest ih =>
    obtain ⟨first, others⟩ := List.forall_mem_cons.mp proper
    have placed : place isFile false above item = above ++ [item] := by
      rw [place, if_neg, addSegment_of_proper first]
      intro inFront
      simp only [Bool.and_eq_true] at inFront
      exact later inFront.1.1 (List.isEmpty_iff.mp inFront.1.2)
    rw [List.foldl_cons, placed, ih (by simp) others]
    simp

/-- If nothing is lost, no segment stands for another one. -/
theorem proper_of_length_le {isFile : Bool} {items : List String}
    (kept : items.length ≤ (items.foldl (place isFile false) []).length) :
    ∀ item ∈ items, isProper item = true := by
  have placed := length_foldl_place_le isFile [] items
  have counted := List.countP_le_length (p := isProper) (l := items)
  rw [List.length_nil, Nat.zero_add] at placed
  exact List.countP_eq_length.mp (Nat.le_antisymm counted (Nat.le_trans kept placed))

/-- Outside files dots are followed one segment after the other. -/
theorem follow_eq_foldl (above items : List String) :
    follow above items = items.foldl (place false false) above := by
  induction items generalizing above with
  | nil => rfl
  | cons item rest ih =>
    rw [follow_cons, ih]
    rfl

theorem follow_of_proper {items : List String} (proper : ∀ item ∈ items, isProper item = true)
    (above : List String) : follow above items = above ++ items := by
  have outside : false = true → above ≠ [] := fun inFile => absurd inFile Bool.false_ne_true
  rw [follow_eq_foldl, foldl_place_of_proper outside proper]

/-! ### Characters of segments -/

/-- Says that a character is neither a blank nor one of control. -/
def Inner (c : Char) : Prop := 0x20 < c.toNat

instance (c : Char) : Decidable (Inner c) := inferInstanceAs (Decidable (_ < _))

theorem isBreak_eq_false_of_inner {c : Char} (inner : Inner c) : isBreak c = false := by
  rw [Bool.eq_false_iff]
  intro breaks
  simp only [isBreak, Bool.or_eq_true, beq_iff_eq] at breaks
  rcases breaks with (rfl | rfl) | rfl
  · exact absurd inner (by decide)
  · exact absurd inner (by decide)
  · exact absurd inner (by decide)

theorem inner_of_stays_query {c : Char} (stays : Percent.Stays Percent.query c) : Inner c := by
  obtain ⟨-, kept⟩ := stays
  by_cases small : c.toNat ≤ 0x20
  · have escaped : Percent.query c = true := by
      by_cases control : c.toNat < 0x20
      · simp [Percent.query, Percent.controls, control]
      · have isBlank : c = ' ' := by
          apply Char.toNat_inj.mp
          show c.toNat = 0x20
          omega
        rw [isBlank]
        decide
    rw [escaped] at kept
    cases kept
  · exact Nat.lt_of_not_le small

theorem stays_query_of_path {c : Char} (stays : Percent.Stays Percent.path c) :
    Percent.Stays Percent.query c := by
  obtain ⟨small, kept⟩ := stays
  refine ⟨small, ?_⟩
  simp only [Percent.path, Percent.fragment, Bool.or_eq_false_iff, decide_eq_false_iff_not,
    List.mem_cons, not_or] at kept
  simp [Percent.query, kept]

theorem inner_of_stays_path {c : Char} (stays : Percent.Stays Percent.path c) : Inner c :=
  inner_of_stays_query (stays_query_of_path stays)

theorem plain_eq_self {text : List Char} (inner : ∀ c ∈ text, Inner c) : plain text = text := by
  apply List.filter_eq_self.mpr
  intro c member
  rw [isBreak_eq_false_of_inner (inner c member)]
  rfl

theorem stays_of_mem_segmentText {piece : List Char} {c : Char}
    (member : c ∈ (segmentText piece).toList) : Percent.Stays Percent.path c := by
  rw [segmentText, String.toList_ofList] at member
  exact Percent.stays_of_mem_write Percent.stays_path_of_mem_codeChars member

theorem Settled.stays {segment : String} (settled : Settled segment) :
    ∀ c ∈ segment.toList, Percent.Stays Percent.path c := by
  intro c member
  rw [← settled.written_eq] at member
  exact stays_of_mem_segmentText member

/-- What holds nothing to be escaped is written as it is. -/
theorem written_eq_self {segment : String}
    (stays : ∀ c ∈ segment.toList, Percent.Stays Percent.path c) : written segment = segment := by
  have unbroken : plain segment.toList = segment.toList :=
    plain_eq_self fun c member => inner_of_stays_path (stays c member)
  rw [written, segmentText, unbroken, Percent.write_eq_self stays, String.ofList_toList]

/-- A segment is settled once it is written, if it is not one of dots. -/
theorem settled_segmentText {piece : List Char} (single : '/' ∉ piece)
    (notAbove : isDoubleDot (segmentText piece) = false)
    (notHere : isSingleDot (segmentText piece) = false) : Settled (segmentText piece) := by
  refine ⟨?_, written_eq_self fun c => stays_of_mem_segmentText, notAbove, notHere⟩
  intro member
  rw [segmentText, String.toList_ofList] at member
  rcases Percent.of_mem_write member with ⟨inPlain, -⟩ | isCode
  · exact single (List.mem_filter.mp inPlain).1
  · exact absurd isCode (by decide)

theorem settled_empty : Settled "" := ⟨by decide, by decide, by decide, by decide⟩

/-! ### Reading a path -/

/-- Without a stem, and outside files, a piece is added as a segment. -/
theorem addPiece_eq {walk : Walk} (stemless : walk.stem = "") (final : Bool) (piece : List Char) :
    walk.addPiece false final piece
      = { walk with segments := addSegment final walk.segments (segmentText piece) } := by
  simp [Walk.addPiece, stemless]

/-- Whatever holds of empty segments, and of written ones unless they are dots, holds of all that
are read after some of which it holds. -/
theorem forall_mem_addPieces {holds : String → Prop} {walk : Walk} {pieces : List (List Char)}
    (stemless : walk.stem = "") (before : ∀ segment ∈ walk.segments, holds segment)
    (empty : holds "")
    (read : ∀ piece ∈ pieces, isDoubleDot (segmentText piece) = false →
      isSingleDot (segmentText piece) = false → holds (segmentText piece)) :
    ∀ segment ∈ (walk.addPieces false pieces).segments, holds segment := by
  have above : ∀ segments : List String, (∀ segment ∈ segments, holds segment) →
      ∀ segment ∈ dropLastSegment segments, holds segment := by
    intro segments all segment member
    unfold dropLastSegment at member
    split at member
    · split at member
      · exact all segment member
      · exact all segment (List.dropLast_subset segments member)
    · cases member
  have step : ∀ (walk : Walk) final piece, walk.stem = "" →
      (∀ segment ∈ walk.segments, holds segment) →
      (isDoubleDot (segmentText piece) = false → isSingleDot (segmentText piece) = false →
        holds (segmentText piece)) →
      (walk.addPiece false final piece).stem = "" ∧
        ∀ segment ∈ (walk.addPiece false final piece).segments, holds segment := by
    intro walk final piece stemless before read
    have dropped := above walk.segments before
    rw [addPiece_eq stemless]
    refine ⟨stemless, ?_⟩
    unfold addSegment
    by_cases isAbove : isDoubleDot (segmentText piece) = true
    · cases final <;> simp_all [or_imp]
    · by_cases isHere : isSingleDot (segmentText piece) = true
      · cases final <;> simp_all [or_imp]
      · simp_all [or_imp]
  induction pieces generalizing walk with
  | nil => exact before
  | cons piece rest ih =>
    obtain ⟨first, others⟩ := List.forall_mem_cons.mp read
    cases rest with
    | nil => exact (step walk true piece stemless before first).2
    | cons next rest =>
      obtain ⟨stemless', before'⟩ := step walk false piece stemless before first
      exact ih stemless' before' others

theorem stem_addPiece {walk : Walk} (stemless : walk.stem = "") (isFile final : Bool)
    {piece : List Char} (whole : isFile = true → Walk.brokenDrive? piece = none) :
    (walk.addPiece isFile final piece).stem = "" := by
  unfold Walk.addPiece
  rw [if_neg (by simp [stemless])]
  split
  · rename_i first
    rw [Walk.addFirst, whole (Bool.and_eq_true_iff.mp first).1]
    dsimp only
    split <;> exact stemless
  · exact stemless

/-- Without a stem, and without breaks in a file, a piece is put in its place. -/
theorem segments_addPiece {walk : Walk} (stemless : walk.stem = "") (isFile final : Bool)
    {piece : List Char} (whole : isFile = true → Walk.brokenDrive? piece = none) :
    (walk.addPiece isFile final piece).segments
      = place isFile final walk.segments (segmentText piece) := by
  unfold Walk.addPiece place
  rw [if_neg (by simp [stemless])]
  by_cases first : isFile && walk.segments.isEmpty
  · rw [if_pos first, Walk.addFirst, whole (Bool.and_eq_true_iff.mp first).1]
    dsimp only
    by_cases drive : isDriveLetter (segmentText piece) = true
    · rw [if_pos drive, if_pos (by simp [first, drive])]
      rfl
    · rw [if_neg drive, if_neg (by simp [drive])]
  · rw [if_neg first, if_neg (by simp [first])]

/-- **The pieces of a path** are put in their places one after the other when it is read, up to an
empty segment at its end. -/
theorem filter_addPieces {walk : Walk} (stemless : walk.stem = "") {isFile : Bool}
    {pieces : List (List Char)}
    (whole : isFile = true → ∀ piece ∈ pieces, Walk.brokenDrive? piece = none) :
    (walk.addPieces isFile pieces).segments.filter (· ≠ "")
      = ((pieces.map segmentText).foldl (place isFile false) walk.segments).filter (· ≠ "") := by
  induction pieces generalizing walk with
  | nil => rfl
  | cons piece rest ih =>
    have first := fun inFile => whole inFile piece List.mem_cons_self
    cases rest with
    | nil =>
      show (walk.addPiece isFile true piece).segments.filter _ = _
      rw [segments_addPiece stemless isFile true first, filter_place]
      rfl
    | cons next rest =>
      rw [List.map_cons, List.foldl_cons, ← segments_addPiece stemless isFile false first]
      exact ih (stem_addPiece stemless isFile false first) fun inFile other member =>
        whole inFile other (List.mem_cons_of_mem piece member)

/-- Whether a segment without dots is the last one makes no difference. -/
theorem place_of_proper {segment : String} (proper : isProper segment = true) (isFile final : Bool)
    (above : List String) : place isFile final above segment = place isFile false above segment := by
  rw [place, place, addSegment_of_proper proper, addSegment_of_proper proper]

/-- Pieces without dots are put in their places, with no empty segment after them. -/
theorem segments_addPieces_of_proper {walk : Walk} (stemless : walk.stem = "") {isFile : Bool}
    {pieces : List (List Char)}
    (whole : isFile = true → ∀ piece ∈ pieces, Walk.brokenDrive? piece = none)
    (proper : ∀ piece ∈ pieces, isProper (segmentText piece) = true) :
    (walk.addPieces isFile pieces).segments
      = (pieces.map segmentText).foldl (place isFile false) walk.segments := by
  induction pieces generalizing walk with
  | nil => rfl
  | cons piece rest ih =>
    have first := fun inFile => whole inFile piece List.mem_cons_self
    obtain ⟨isProper, others⟩ := List.forall_mem_cons.mp proper
    cases rest with
    | nil =>
      show (walk.addPiece isFile true piece).segments = _
      rw [segments_addPiece stemless isFile true first, place_of_proper isProper]
      rfl
    | cons next rest =>
      rw [List.map_cons, List.foldl_cons, ← segments_addPiece stemless isFile false first]
      exact ih (stem_addPiece stemless isFile false first)
        (fun inFile other member => whole inFile other (List.mem_cons_of_mem piece member)) others

theorem readPathFrom_eq {scheme : String} (noFile : scheme ≠ "file") (base : List String)
    (text : List Char) : readPathFrom scheme base text = ((Walk.after base).addPieces false
      (splitOn '/' (unifySlashes (isWebScheme scheme) text))).segments := by
  simp [readPathFrom, walkPath, noFile]

/-- **What is read is settled**, after settled segments, unless it is the path of a file. -/
theorem settled_of_mem_readPathFrom {scheme : String} (noFile : scheme ≠ "file")
    {base : List String} (before : ∀ segment ∈ base, Settled segment) {text : List Char} :
    ∀ segment ∈ readPathFrom scheme base text, Settled segment := by
  rw [readPathFrom_eq noFile]
  apply forall_mem_addPieces rfl before settled_empty
  intro piece member notAbove notHere
  exact settled_segmentText (not_mem_of_mem_splitOn member) notAbove notHere

/-! ### The segments of a URI -/

/-- A path is cut into what it is made of, after what stands before its first slash. -/
theorem splitOn_segmentsText {items : List String} (single : ∀ item ∈ items, '/' ∉ item.toList) :
    splitOn '/' (Path.segmentsText items).toList = [] :: items.map String.toList := by
  induction items with
  | nil => rfl
  | cons item rest ih =>
    obtain ⟨first, others⟩ := List.forall_mem_cons.mp single
    have text : (Path.segmentsText (item :: rest)).toList
        = '/' :: (item.toList ++ (Path.segmentsText rest).toList) := by
      simp [Path.segmentsText]
    rw [text, splitOn_cons_sep, List.map_cons]
    congr 1
    cases rest with
    | nil => simpa [Path.segmentsText] using splitOn_of_not_mem first
    | cons next rest =>
      have after : (Path.segmentsText (next :: rest)).toList
          = '/' :: (next.toList ++ (Path.segmentsText rest).toList) := by
        simp [Path.segmentsText]
      have cut := ih others
      rw [after, splitOn_cons_sep] at cut
      rw [after, splitOn_append first, (List.cons.inj cut).2]

/-- **The segments of a path** are what it is made of, without empty items. -/
theorem segments_eq {uri : Uri} {items : List String} (path : uri.path = .segments items)
    (single : ∀ item ∈ items, '/' ∉ item.toList) : uri.segments = items.filter (· ≠ "") := by
  rw [segments, split, pathText, path, Path.text, splitOn_segmentsText single]
  simp [Function.comp_def]

theorem of_mem_segments {uri : Uri} {segment : String} (member : segment ∈ uri.segments) :
    segment ≠ "" ∧ '/' ∉ segment.toList := by
  obtain ⟨isPiece, given⟩ := List.mem_filter.mp member
  obtain ⟨piece, cut, rfl⟩ := List.mem_map.mp isPiece
  exact ⟨of_decide_eq_true given, by simpa using not_mem_of_mem_splitOn cut⟩

/-! ### Setting segments -/

/-- A text that is joined by one character. -/
theorem toList_join_of {sep : String} {c : Char} (isSep : sep.toList = [c]) (items : List String) :
    (Text.join sep items).toList = joinWith c (items.map String.toList) := by
  induction items with
  | nil => rfl
  | cons item rest ih =>
    cases rest with
    | nil => rfl
    | cons next rest =>
      have step : Text.join sep (item :: next :: rest)
          = item ++ sep ++ Text.join sep (next :: rest) := rfl
      rw [step, String.toList_append, String.toList_append, ih, isSep]
      simp [joinWith]

theorem toList_join (items : List String) :
    (Text.join "/" items).toList = joinWith '/' (items.map String.toList) :=
  toList_join_of rfl items

/-- Segments that were joined are cut apart again. No segments are joined to one that is empty. -/
theorem splitOn_join {items : List String} (single : ∀ item ∈ items, '/' ∉ item.toList) :
    splitOn '/' (Text.join "/" items).toList
      = if items = [] then [[]] else items.map String.toList := by
  rw [toList_join]
  cases items with
  | nil => rfl
  | cons item rest => exact splitOn_joinWith (by simp) (by simpa using single)

theorem plain_dropBreaks (before text : List Char) :
    plain (dropBreaks before text) = plain text := by
  induction text generalizing before with
  | nil => rfl
  | cons c rest ih =>
    unfold dropBreaks
    by_cases breaks : isBreak c = true
    · rw [if_neg (by simp [breaks])]
      split
      · simpa [plain, breaks] using ih []
      · simpa [plain, breaks] using ih before
    · simpa [plain, breaks] using ih (c :: before)

/-- Dropping other characters before or after a cut at slashes comes to the same. -/
theorem splitOn_plain (text : List Char) :
    splitOn '/' (plain text) = (splitOn '/' text).map plain := by
  have keepsSlash : plain ['/'] = ['/'] := by decide
  induction text with
  | nil => rfl
  | cons c rest ih =>
    by_cases slash : c = '/'
    · subst slash
      have step : plain ('/' :: rest) = '/' :: plain rest := rfl
      rw [step, splitOn_cons_sep, splitOn_cons_sep, ih]
      rfl
    · obtain ⟨first, others, cut⟩ := List.exists_cons_of_ne_nil (splitOn_ne_nil '/' rest)
      have whole : splitOn '/' (c :: rest) = (c :: first) :: others := by
        simp [splitOn, slash, cut]
      rw [whole]
      rw [cut, List.map_cons] at ih
      by_cases breaks : isBreak c = true
      · have step : plain (c :: rest) = plain rest := by simp [plain, breaks]
        have front : plain (c :: first) = plain first := by simp [plain, breaks]
        rw [step, ih, List.map_cons, front]
      · have step : ∀ text, plain (c :: text) = c :: plain text := by
          intro text
          simp [plain, breaks]
        rw [step, List.map_cons, step]
        simp [splitOn, slash, ih]

/-- Breaks that are dropped first make no difference to what is written. -/
theorem map_segmentText_dropBreaks (before text : List Char) :
    (splitOn '/' (dropBreaks before text)).map segmentText
      = (splitOn '/' text).map segmentText := by
  -- A cut after breaks are dropped is no cut before it, but it is once all breaks are gone.
  have through : ∀ pieces : List (List Char), pieces.map segmentText
      = (pieces.map plain).map fun piece => String.ofList (Percent.write Percent.path piece) := by
    intro pieces
    simp [segmentText]
  rw [through, through, ← splitOn_plain, ← splitOn_plain, plain_dropBreaks]

theorem exists_path {uri : Uri} (hierarchy : uri.isLiteral = false) :
    ∃ items, uri.path = .segments items := by
  unfold isLiteral at hierarchy
  cases path : uri.path with
  | segments items => exact ⟨items, rfl⟩
  | literal text => simp [path] at hierarchy

/-- Setting the segments of a hierarchy outside the web changes its path alone. -/
theorem replace_eq {uri : Uri} (hierarchy : uri.isLiteral = false)
    (noWeb : isWebScheme uri.scheme = false) (items : List String) :
    uri.replace items = { uri with
      path := .segments
        (readPathFrom uri.scheme [] (dropBreaks ['/'] (Text.join "/" items).toList)) } := by
  obtain ⟨old, isOld⟩ := exists_path hierarchy
  have chars : dropBreaks [] ("/" ++ Text.join "/" items).toList
      = '/' :: dropBreaks ['/'] (Text.join "/" items).toList := by
    have slash : isBreak '/' = false := by decide
    simp [dropBreaks, slash]
  simp only [replace, withPath, isOld, chars]
  simp [readPath, unifySlashes, noWeb]

/-- **Segments that are set** in a hierarchy outside the web are written, and dots among them are
followed. -/
theorem segments_replace {uri : Uri} (hierarchy : uri.isLiteral = false)
    (noWeb : isWebScheme uri.scheme = false) {items : List String}
    (single : ∀ item ∈ items, '/' ∉ item.toList) :
    (uri.replace items).segments = (follow [] (items.map written)).filter (· ≠ "") := by
  have noFile : uri.scheme ≠ "file" := by
    intro isFile
    rw [isFile] at noWeb
    exact absurd noWeb (by decide)
  have path : (uri.replace items).path = .segments
      (readPathFrom uri.scheme [] (dropBreaks ['/'] (Text.join "/" items).toList)) := by
    rw [replace_eq hierarchy noWeb]
  have isSingle : ∀ item ∈ readPathFrom uri.scheme []
      (dropBreaks ['/'] (Text.join "/" items).toList), '/' ∉ item.toList := by
    intro item member
    exact (settled_of_mem_readPathFrom noFile (List.forall_mem_nil _) item member).single
  have outside : false = true → ∀ piece ∈ splitOn '/' (unifySlashes (isWebScheme uri.scheme)
      (dropBreaks ['/'] (Text.join "/" items).toList)), Walk.brokenDrive? piece = none :=
    fun inFile => absurd inFile Bool.false_ne_true
  rw [segments_eq path isSingle, readPathFrom_eq noFile, filter_addPieces rfl outside,
    ← follow_eq_foldl, noWeb]
  simp only [unifySlashes, Bool.false_eq_true, if_false, Walk.after, map_segmentText_dropBreaks,
    splitOn_join single]
  cases items with
  | nil => decide
  | cons item rest =>
    rw [if_neg (List.cons_ne_nil item rest), List.map_map]
    rfl

/-! ### Segments that are kept -/

/-- Segments without dots are read one after the other. -/
theorem addPieces_of_proper {walk : Walk} (stemless : walk.stem = "") {pieces : List (List Char)}
    (proper : ∀ piece ∈ pieces, isProper (segmentText piece) = true) :
    (walk.addPieces false pieces).segments = walk.segments ++ pieces.map segmentText := by
  have outside : ∀ {anything : Prop}, false = true → anything :=
    fun inFile => absurd inFile Bool.false_ne_true
  rw [segments_addPieces_of_proper stemless outside proper, foldl_place_of_proper outside]
  exact List.forall_mem_map.mpr proper

theorem map_written_of_settled {items : List String} (settled : ∀ item ∈ items, Settled item) :
    items.map written = items := by
  rw [List.map_congr_left fun item member => (settled item member).written_eq]
  exact List.map_id items

/-- What is settled is read as it is. An empty path has one empty segment. -/
theorem readPathFrom_join {scheme : String} (noWeb : isWebScheme scheme = false)
    {items : List String} (settled : ∀ item ∈ items, Settled item) :
    readPathFrom scheme [] (Text.join "/" items).toList = if items = [] then [""] else items := by
  have noFile : scheme ≠ "file" := by
    rintro rfl
    exact absurd noWeb (by decide)
  rw [readPathFrom_eq noFile, noWeb]
  cases items with
  | nil => decide
  | cons item rest =>
    have cut : splitOn '/' (unifySlashes false (Text.join "/" (item :: rest)).toList)
        = (item :: rest).map String.toList :=
      splitOn_join fun other isOther => (settled other isOther).single
    have proper : ∀ piece ∈ (item :: rest).map String.toList,
        isProper (segmentText piece) = true := by
      intro piece member
      obtain ⟨other, isOther, rfl⟩ := List.mem_map.mp member
      have itself : segmentText other.toList = other := (settled other isOther).written_eq
      rw [itself]
      exact (settled other isOther).proper
    rw [cut, addPieces_of_proper rfl proper, List.map_map, if_neg (List.cons_ne_nil item rest)]
    exact map_written_of_settled settled

/-- **Segments are read as they are** just if they are settled. -/
theorem follow_eq_self_iff {items : List String} (given : ∀ item ∈ items, item ≠ "")
    (single : ∀ item ∈ items, '/' ∉ item.toList) :
    (follow [] (items.map written)).filter (· ≠ "") = items ↔ ∀ item ∈ items, Settled item := by
  constructor
  · intro same
    -- Nothing is lost, so no segment stands for another one and none is empty.
    have enough := congrArg List.length same
    have kept := List.length_filter_le (fun item => decide (item ≠ ""))
      (follow [] (items.map written))
    have allProper : ∀ item ∈ items.map written, isProper item = true := by
      apply proper_of_length_le
      rw [← follow_eq_foldl, List.length_map]
      omega
    rw [follow_of_proper allProper, List.nil_append] at same enough
    have unfiltered : (items.map written).filter (· ≠ "") = items.map written := by
      apply List.filter_eq_self.mpr
      apply List.length_filter_eq_length_iff.mp
      rw [enough, List.length_map]
    have isWritten : items.map written = items := unfiltered.symm.trans same
    intro item member
    have itself : written item = item :=
      List.map_inj_left.mp (isWritten.trans (List.map_id items).symm) item member
    rw [isWritten] at allProper
    obtain ⟨notAbove, notHere⟩ := isProper_iff.mp (allProper item member)
    exact ⟨single item member, itself, notAbove, notHere⟩
  · intro settled
    rw [map_written_of_settled settled, follow_of_proper fun item member =>
      (settled item member).proper, List.nil_append, List.filter_eq_self]
    simpa using given

end Switchboard.Uri
