import Switchboard.Proofs.Uri.Hosted
/-!
Paths without a hierarchy in another scheme.

Such a path may hold marks and blanks, if it was set and not read. When it is read again it ends at
the first mark, and a blank at the end of the URI is trimmed. What is left out then is more than
slashes, so that the segments cannot come back. As the path of a file it has a hierarchy.

* `Uri.exists_dropped`: what is not read of a path is more than slashes.
* `Uri.onlyScheme_iff_of_literal`: what stays outside the web.
* `Uri.onlyScheme_iff_of_literalFile`: what stays as a file.
-/

namespace Switchboard

namespace Text

/-! ### Cuts -/

/-- A cut loses nothing but the separators. -/
theorem flatten_splitOn (c : Char) (text : List Char) :
    (splitOn c text).flatten = text.filter (· ≠ c) := by
  induction text with
  | nil => rfl
  | cons d rest ih =>
    by_cases isSep : d = c
    · rw [isSep, splitOn_cons_sep, List.flatten_cons, ih, List.filter_cons_of_neg (by simp)]
      rfl
    · obtain ⟨piece, pieces, inRest⟩ := List.exists_cons_of_ne_nil (splitOn_ne_nil c rest)
      have whole : splitOn c (d :: rest) = (d :: piece) :: pieces := by
        simp [splitOn, isSep, inRest]
      rw [inRest] at ih
      rw [whole, List.filter_cons_of_pos (by simpa using isSep), ← ih]
      rfl

/-- What is dropped from the end of a text stands there. -/
theorem dropEndWhile_append_takeWhile (junk : Char → Bool) (text : List Char) :
    dropEndWhile junk text ++ (text.reverse.takeWhile junk).reverse = text := by
  rw [dropEndWhile, ← List.reverse_append, List.takeWhile_append_dropWhile, List.reverse_reverse]

/-- A text that does not end with junk is left as it is. -/
theorem dropEndWhile_eq_self {junk : Char → Bool} {text : List Char}
    (last : ∀ c ∈ text.getLast?, junk c = false) : dropEndWhile junk text = text := by
  rw [dropEndWhile]
  rw [← List.head?_reverse] at last
  cases reversed : text.reverse with
  | nil => rw [List.reverse_eq_nil_iff.mp reversed]; rfl
  | cons c rest =>
    rw [reversed] at last
    rw [List.dropWhile_cons_of_neg (by simp [last c rfl]), ← reversed, List.reverse_reverse]

end Text

namespace Uri

open Text

/-- The characters of the segments of a path are those of its text without the slashes. -/
theorem flatMap_segments (text : String) :
    ((split '/' text).filter (· ≠ "")).flatMap String.toList = text.toList.filter (· ≠ '/') := by
  have given : ∀ items : List String,
      (items.filter (· ≠ "")).flatMap String.toList = items.flatMap String.toList := by
    intro items
    induction items with
    | nil => rfl
    | cons item rest ih =>
      rw [List.flatMap_cons, ← ih]
      by_cases empty : item = ""
      · rw [empty, List.filter_cons_of_neg (by simp)]
        rfl
      · rw [List.filter_cons_of_pos (by simpa using empty), List.flatMap_cons]
  rw [given, split, List.flatMap_map, ← flatten_splitOn, ← List.flatMap_id']
  simp only [String.toList_ofList]

/-! ### Reading -/

/-- Says whether a path goes on with a character. -/
def inPath (c : Char) : Bool := c != '?' && c != '#'

theorem fst_spanPath_tailText (uri : Uri) (front : List Char) :
    (spanPath (front ++ uri.tailText)).1 = front.takeWhile inPath := by
  induction front with
  | nil => rw [spanPath_tailText uri (List.forall_mem_nil _)]; rfl
  | cons c rest ih =>
    rw [spanPath, List.span_eq_takeWhile_dropWhile] at ih ⊢
    show (c :: (rest ++ uri.tailText)).takeWhile inPath = _
    rw [List.takeWhile_cons, List.takeWhile_cons]
    split
    · exact congrArg (c :: ·) ih
    · rfl

section Literal

variable {uri other : Uri} (made : Made uri) (unrooted : uri.path.rooted? = none) {scheme : String}

include unrooted in
theorem exists_literal :
    ∃ text, uri.path = .literal text ∧ ∀ c ∈ text.toList.head?, c ≠ '/' := by
  unfold Path.rooted? at unrooted
  split at unrooted
  · cases unrooted
  · rename_i text isPath
    refine ⟨text, isPath, fun c isHead isSlash => ?_⟩
    obtain ⟨rest, isText⟩ : ∃ rest, text.toList = '/' :: rest := by
      cases chars : text.toList with
      | nil =>
        rw [chars] at isHead
        cases isHead
      | cons d rest =>
        rw [chars] at isHead
        exact ⟨rest, by rw [Option.some.inj isHead, isSlash]⟩
    rw [isText] at unrooted
    cases unrooted

include made unrooted in
/-- What has no hierarchy has no authority, and no dot before its path. -/
theorem bare_of_unrooted : uri.authority = none ∧ uri.dotted = false := by
  obtain ⟨text, path, -⟩ := exists_literal unrooted
  have bears := made.bears kept_fit
  have literal : uri.isLiteral = true := by rw [isLiteral, path]
  constructor
  · by_contra given
    exact Bool.false_ne_true ((bears.rooted given).symm.trans literal)
  · refine Bool.eq_false_iff.mpr fun dotted => ?_
    exact Bool.false_ne_true ((bears.dotted dotted).symm.trans literal)

include made unrooted in
theorem stays_controls_of_unrooted :
    ∀ c ∈ uri.pathText.toList, Percent.Stays Percent.controls c := by
  obtain ⟨text, path, -⟩ := exists_literal unrooted
  rw [pathText, path]
  exact (made.bears kept_fit).literal text path

/-- What is kept of the text of a path when it is read without a hierarchy. -/
def keptText (uri : Uri) : List Char :=
  (spanPath (dropEndWhile isEdge (uri.pathText.toList ++ uri.tailText))).1

theorem tailText_eq_nil_iff : uri.tailText = [] ↔ uri.query = none ∧ uri.fragment = none := by
  unfold tailText
  cases uri.query <;> cases uri.fragment <;> simp [marked]

include made in
/-- Only a path at the end of a URI is trimmed. -/
theorem dropEndWhile_tailText (given : uri.tailText ≠ []) (text : List Char) :
    dropEndWhile isEdge (text ++ uri.tailText) = text ++ uri.tailText := by
  have bears := made.bears kept_fit
  obtain ⟨c, rest, isTail⟩ := List.exists_cons_of_ne_nil given
  have solid : ∀ d ∈ c :: rest, isEdge d = false := fun d member =>
    isEdge_eq_false_of_inner (inner_of_mem_tailText bears.query bears.fragment d (isTail ▸ member))
  rw [isTail, dropEndWhile_append _ solid]

include made unrooted in
/-- A text that is read whole is not trimmed. -/
theorem trimmed_of_readsWhole (whole : uri.ReadsWhole) :
    dropEndWhile isEdge (uri.pathText.toList ++ uri.tailText)
      = uri.pathText.toList ++ uri.tailText := by
  by_cases nothing : uri.tailText = []
  · obtain ⟨noQuery, noFragment⟩ := tailText_eq_nil_iff.mp nothing
    have blank : ∀ {c : Char}, Percent.Stays Percent.controls c → isEdge c = true → c = ' ' :=
      fun {c} stays =>
        of_ascii (fun c => Percent.Stays Percent.controls c → isEdge c = true → c = ' ')
          (by decide +kernel) stays.1 stays
    rw [nothing, List.append_nil]
    refine dropEndWhile_eq_self fun c isLast => Bool.eq_false_iff.mpr fun isEdge => ?_
    have stays := stays_controls_of_unrooted made unrooted c (List.mem_of_getLast? isLast)
    exact whole.2 noQuery noFragment (blank stays isEdge ▸ isLast)
  · exact dropEndWhile_tailText made nothing _

include made in
/-- What is left of a path that is trimmed. -/
theorem exists_trimmed (text : List Char) : ∃ front back, text = front ++ back ∧
    dropEndWhile isEdge (text ++ uri.tailText) = front ++ uri.tailText ∧
    (uri.tailText = [] → text.getLast? = some ' ' → ' ' ∈ back) := by
  by_cases nothing : uri.tailText = []
  · refine ⟨dropEndWhile isEdge text, (text.reverse.takeWhile isEdge).reverse,
      (dropEndWhile_append_takeWhile isEdge text).symm, ?_, fun _ isLast => ?_⟩
    · rw [nothing, List.append_nil, List.append_nil]
    · have isEdge : isEdge ' ' = true := by decide
      rw [List.mem_reverse]
      rw [← List.head?_reverse] at isLast
      cases reversed : text.reverse with
      | nil =>
        rw [reversed] at isLast
        cases isLast
      | cons c rest =>
        rw [reversed] at isLast
        obtain rfl := Option.some.inj isLast
        rw [List.takeWhile_cons_of_pos isEdge]
        exact List.mem_cons_self
  · exact ⟨text, [], (List.append_nil text).symm, dropEndWhile_tailText made nothing text,
      fun absent => absurd absent nothing⟩

include made in
/-- **What is not read of a path without a hierarchy** is more than slashes, if it is not read
whole. -/
theorem exists_dropped : ∃ dropped, uri.pathText.toList = uri.keptText ++ dropped ∧
    ((∀ c ∈ dropped, c = '/') → uri.ReadsWhole) := by
  obtain ⟨front, back, isText, trimmed, blank⟩ := exists_trimmed made uri.pathText.toList
  have isKept : uri.keptText = front.takeWhile inPath := by
    rw [keptText, trimmed, fst_spanPath_tailText]
  refine ⟨front.dropWhile inPath ++ back, ?_,
    fun slashes => ⟨?_, fun noQuery noFragment isLast => ?_⟩⟩
  · rw [isKept, ← List.append_assoc, List.takeWhile_append_dropWhile, isText]
  · -- A mark that ended the path would be the first of what is dropped, and no slash.
    have slash : inPath '/' = true := by decide
    have unread : front.dropWhile inPath = [] := by
      have stops := List.head?_dropWhile_not inPath front
      cases dropped : front.dropWhile inPath with
      | nil => rfl
      | cons c rest =>
        rw [dropped] at stops slashes
        rw [slashes c (by simp)] at stops
        exact absurd slash (by simpa using stops)
    have inFront := List.dropWhile_eq_nil_iff.mp unread
    intro c member
    rw [isText] at member
    rcases List.mem_append.mp member with early | late
    · have inPath := inFront c early
      simpa [Uri.inPath] using inPath
    · rw [slashes c (List.mem_append_right _ late)]
      decide
  · have member := blank (tailText_eq_nil_iff.mpr ⟨noQuery, noFragment⟩) isLast
    exact absurd (slashes _ (List.mem_append_right _ member)) (by decide)

include unrooted in
/-- Such a path begins with no slash, and neither does what comes after it. -/
theorem head_of_unrooted {front : List Char} (starts : front <+: uri.pathText.toList) :
    ∀ c ∈ (front ++ uri.tailText).head?, c ≠ '/' := by
  obtain ⟨text, path, noSlash⟩ := exists_literal unrooted
  have isText : uri.pathText = text := by rw [pathText, path, Path.text]
  rw [isText] at starts
  obtain ⟨back, isFront⟩ := starts
  cases front with
  | nil =>
    rcases uri.tailText_eq with nothing | ⟨c, rest, isTail, isMark⟩
    · rw [nothing]
      exact fun _ absent => by cases absent
    · rw [isTail]
      intro d isHead
      rw [← Option.some.inj isHead]
      rcases isMark with rfl | rfl <;> decide
  | cons c rest =>
    rw [← isFront] at noSlash
    exact noSlash

/-- What is read of a text without slashes in front, outside the web. -/
theorem of_readAbsolute_literal (noWeb : isWebScheme scheme = false) {text : List Char}
    (noSlash : ∀ c ∈ text.head?, c ≠ '/') (read : readAbsolute none scheme text = .ok other) :
    other.authority = none ∧ other.path = readLiteral (spanPath text).1 ∧
      other.query = (readTail scheme (spanPath text).2).1 := by
  have noRoot : ∀ rest, (spanPath text).1 ≠ '/' :: rest := by
    intro rest isRoot
    rw [spanPath, List.span_eq_takeWhile_dropWhile] at isRoot
    obtain ⟨others, isText⟩ : '/' :: rest <+: text := by
      rw [← isRoot]
      exact List.takeWhile_prefix _
    exact noSlash '/' (by rw [← isText]; rfl) rfl
  unfold readAbsolute at read
  rw [if_neg (ne_file noWeb), noWeb, if_neg Bool.false_ne_true] at read
  split at read
  · exact absurd rfl (noSlash '/' rfl)
  · dsimp only at read
    obtain rfl := Except.ok.inj read
    refine ⟨rfl, ?_, rfl⟩
    dsimp only
    split
    · rename_i rest isRoot
      exact absurd isRoot (noRoot rest)
    · rfl

/-- Without anything to escape a path is read as it is. -/
theorem readLiteral_of_stays {text : List Char}
    (stays : ∀ c ∈ text, Percent.Stays Percent.controls c) :
    readLiteral text = .literal (String.ofList text) := by
  have unbroken : plain text = text := by
    refine List.filter_eq_self.mpr fun c member => ?_
    have all : Percent.Stays Percent.controls c → (!isBreak c) = true :=
      of_ascii (fun c => Percent.Stays Percent.controls c → (!isBreak c) = true) (by decide +kernel)
        (stays c member).1
    exact all (stays c member)
  rw [readLiteral, unbroken, Percent.write_eq_self stays]

include made unrooted in
/-- **A path without a hierarchy**, outside the web. -/
theorem onlyScheme_iff_of_literal (noWeb : isWebScheme scheme = false)
    (read : readAbsolute none scheme (dropEndWhile isEdge (uri.pathText.toList ++ uri.tailText))
      = .ok other) : OnlyScheme scheme uri other ↔ StaysIn scheme uri := by
  have own := hostless_of_none (bare_of_unrooted made unrooted).1
  have webless : isWebScheme scheme = true → scheme = "file" := fun isWeb =>
    absurd (isWeb.symm.trans noWeb) (by decide)
  have changed := scheme_of_readAbsolute read
  obtain ⟨front, back, isFront, trimmed, -⟩ := exists_trimmed made uri.pathText.toList
  have noSlash := head_of_unrooted unrooted ⟨back, isFront.symm⟩
  rw [← trimmed] at noSlash
  obtain ⟨bare, path, query⟩ := of_readAbsolute_literal noWeb noSlash read
  obtain ⟨dropped, isText, whole⟩ := exists_dropped made
  have isKept : other.pathText.toList = uri.keptText := by
    rw [pathText, path, readLiteral_of_stays fun c member => ?_, Path.text, String.toList_ofList]
    · rfl
    · refine stays_controls_of_unrooted made unrooted c ?_
      rw [isText]
      exact List.mem_append_left _ member
  constructor
  · intro only
    have noSlashes : dropped.filter (· ≠ '/') = [] := by
      have same := congrArg (List.flatMap String.toList) only.segments
      rw [segments, segments, flatMap_segments, flatMap_segments, isKept, isText,
        List.filter_append] at same
      exact List.self_eq_append_right.mp same
    have readsWhole := whole fun c member => by
      simpa using List.filter_eq_nil_iff.mp noSlashes c member
    refine own.staysIn webless ?_ (fun _ _ first rest rooted => ?_) (fun given => ?_)
      fun _ _ => readsWhole
    · have isPlaced : uri.placed scheme = [] := by simp [placed, unrooted, ne_file noWeb]
      rw [isPlaced]
      exact held_nil scheme
    · rw [unrooted] at rooted
      cases rooted
    · exact absurd unrooted (given.resolve_left (ne_file noWeb))
  · intro stays
    have readsWhole := stays.literal (ne_file noWeb) unrooted
    have parts := spanPath_tailText uri readsWhole.1
    rw [← trimmed_of_readsWhole made unrooted readsWhole] at parts
    have isWritten := (made.bears kept_fit).query
    rw [parts, readTail_tailText isWritten] at query
    refine (own.onlyScheme_iff (hostless_of_none bare) changed
      (queryPairs_of_readQuery isWritten query)).mpr ?_
    have same : other.pathText = uri.pathText := by
      rw [← String.toList_inj, isKept, keptText, parts]
    rw [segments, segments, same]

section File

variable (fit : AllChars (Fit "file") (split '/' uri.pathText))

theorem toList_pathText_eq_join (uri : Uri) :
    uri.pathText.toList = (Text.join "/" (split '/' uri.pathText)).toList := by
  rw [toList_join, split, List.map_map]
  simp only [Function.comp_def, String.toList_ofList, List.map_id']
  exact (join_splitOn '/' _).symm

include made unrooted fit in
/-- **A path without a hierarchy** as that of a file. -/
theorem onlyScheme_iff_of_literalFile (otherMade : Made other)
    (read : readAbsolute none "file" (uri.pathText.toList ++ uri.tailText) = .ok other) :
    OnlyScheme "file" uri other ↔ StaysIn "file" uri := by
  have own := hostless_of_none (bare_of_unrooted made unrooted).1
  have isJoin := toList_pathText_eq_join uri
  have single : ∀ first rest, split '/' uri.pathText ≠ "" :: first :: rest := by
    intro first rest same
    rw [same, toList_join_cons, toList_segmentsText_cons] at isJoin
    refine head_of_unrooted unrooted (List.prefix_refl _) '/' ?_ rfl
    rw [isJoin]
    rfl
  have head : ∀ c ∈ ((Text.join "/" (split '/' uri.pathText)).toList ++ uri.tailText).head?, _ :=
    head?_join_tailText fit single
  rw [← isJoin] at head
  have isFile := readFile_of_readAbsolute read
  rw [readFile_plain fun c isHead => ⟨(head c isHead).1, (head c isHead).2 (by decide)⟩,
    isJoin] at isFile
  have isPlaced : uri.placed "file" = split '/' uri.pathText := by simp [placed, unrooted]
  have held := held_iff fit
  rw [onlyScheme_iff_of_root made fit otherMade own rfl rfl (Except.ok.inj isFile).symm]
  constructor
  · intro lasting
    refine own.staysIn (fun _ => rfl) ?_ (fun _ _ first rest rooted => ?_) (fun _ c member => ?_)
      fun noFile => absurd rfl noFile
    · rw [isPlaced]
      exact held.mpr lasting
    · rw [unrooted] at rooted
      cases rooted
    · rw [isJoin, toList_join] at member
      rcases of_mem_joinWith member with rfl | ⟨piece, isPiece, inPiece⟩
      · decide
      · obtain ⟨item, isItem, rfl⟩ := List.mem_map.mp isPiece
        exact (fit item isItem c inPiece).stays
  · intro stays
    have holds := stays.held
    rw [isPlaced] at holds
    exact held.mp holds

end File

end Literal

end Uri

end Switchboard
