import Switchboard.Proofs.Uri.Hosted
/-!
Paths alone in another scheme.

Without an authority a path that begins with one slash is read as it stands. What begins with two of
them is read as a host, so that a segment is lost, unless it is empty or a drive letter.

* `Uri.onlyScheme_iff_of_path`: what stays outside the web.
* `Uri.onlyScheme_iff_of_pathFile`: what stays as a file.
-/

namespace Switchboard.Uri

open Text

section Alone

variable {uri other : Uri} (made : Made uri) {scheme : String} {items : List String}

/-! ### Without an authority -/

/-- A path that begins with two slashes has no dot before it. -/
theorem of_shown_eq {dotted : Bool} {first : String} {rest : List String}
    (hidden : shown dotted items = "" :: first :: rest) :
    dotted = false ∧ items = "" :: first :: rest := by
  cases dotted with
  | false => exact ⟨rfl, hidden⟩
  | true => exact absurd (List.cons.inj hidden).1 (by decide)

theorem isDriveLetter_of_isPlainDrive {segment : String} (plain : isPlainDrive segment = true) :
    isDriveLetter segment = true := by
  unfold isPlainDrive at plain
  split at plain
  · rename_i letter text
    simp [isDriveLetter, text, plain]
  · cases plain

section Absent

variable (absent : uri.authority = none) (rooted : uri.path.rooted? = some items)
include made absent rooted

/-- What stands in the place of a host is lost, unless it is a drive letter. -/
theorem onlyScheme_iff_of_lost {first : String} {rest : List String} (others : List String)
    (noDot : uri.dotted = false) (isItems : items = "" :: first :: rest) (given : first ≠ "")
    (noDrive : scheme = "file" → isDriveLetter first = false)
    (same : others.filter (· ≠ "") = rest.filter (· ≠ ""))
    (read : OnlyScheme scheme uri other →
      other.segments
        = (others.foldl (place (decide (scheme = "file")) false) []).filter (· ≠ "")) :
    OnlyScheme scheme uri other ↔ StaysIn scheme uri := by
  refine ⟨fun only => absurd only.segments (segments_ne_of_lost ?_ (read only)), fun stays => ?_⟩
  · rw [segments_of_rooted? rooted (single_of_rooted? made rooted), isItems, same]
    simp [given]
  · rcases stays.slashes absent noDot first rest (isItems ▸ rooted) with empty | ⟨inFile, plain⟩
    · exact absurd empty given
    · exact absurd ((noDrive inFile).symm.trans (isDriveLetter_of_isPlainDrive plain))
        Bool.false_ne_true

/-- What is read of a path alone stays if what is kept of the segments lasts. -/
theorem onlyScheme_iff_of_kept (fit : AllChars (Fit scheme) items)
    (webless : isWebScheme scheme = true → scheme = "file")
    (others : Hostless other) (changed : other.scheme = scheme)
    (query : other.query = uri.query.map fun text => readQuery scheme text.toList)
    (kept : List String) (same : items.filter (· ≠ "") = kept.filter (· ≠ ""))
    (read : other.segments
      = (kept.foldl (place (decide (scheme = "file")) false) []).filter (· ≠ ""))
    (lasting_iff : Lasting (decide (scheme = "file")) kept ↔
      Lasting (decide (scheme = "file")) items ∧
        (uri.dotted = false → ∀ first rest, items = "" :: first :: rest →
          first = "" ∨ scheme = "file" ∧ isPlainDrive first = true)) :
    OnlyScheme scheme uri other ↔ StaysIn scheme uri := by
  have own := hostless_of_none absent
  have isPlaced : uri.placed scheme = items := by simp [placed, rooted, absent]
  have pairs := queryPairs_of_readQuery (made.bears kept_fit).query query
  have segments := segments_of_rooted? rooted (single_of_rooted? made rooted)
  rw [own.onlyScheme_iff others changed pairs, segments_eq_iff segments same read, lasting_iff]
  constructor
  · rintro ⟨lasting, slashes⟩
    refine own.staysIn webless ?_ (fun _ noDot first rest isItems => ?_)
      (fun _ => stays_of_fit rooted fit) (fun _ unrooted => ?_)
    · rw [isPlaced]
      exact (held_iff fit).mpr lasting
    · exact slashes noDot first rest (Option.some.inj (rooted.symm.trans isItems))
    · rw [rooted] at unrooted
      cases unrooted
  · intro stays
    have held := stays.held
    rw [isPlaced] at held
    refine ⟨held.lasting, fun noDot first rest isItems => ?_⟩
    exact stays.slashes absent noDot first rest (isItems ▸ rooted)

omit made absent rooted in
/-- Where nothing begins with two slashes, all segments are kept. -/
theorem lasting_iff_of_single {isFile : Bool} {drives : String → Prop}
    (single : ∀ first rest, shown uri.dotted items ≠ "" :: first :: rest) :
    Lasting isFile items ↔ Lasting isFile items ∧ (uri.dotted = false →
      ∀ first rest, items = "" :: first :: rest → first = "" ∨ drives first) := by
  refine ⟨fun lasting => ⟨lasting, fun noDot first rest isItems => ?_⟩, And.left⟩
  exact absurd (by rw [noDot, isItems]; rfl) (single first rest)

omit made absent rooted in
/-- Of empty segments in front of others one is lost. -/
theorem lasting_iff_of_empty {isFile : Bool} {drives : String → Prop} {kept rest : List String}
    (all : Lasting isFile kept ↔ ∀ item ∈ rest, isProper item = true)
    (isItems : items = "" :: "" :: rest) :
    Lasting isFile kept ↔ Lasting isFile items ∧ (uri.dotted = false →
      ∀ first rest, items = "" :: first :: rest → first = "" ∨ drives first) := by
  rw [all, isItems, lasting_empty_iff, List.forall_mem_cons]
  refine ⟨fun proper => ⟨⟨isProper_empty, proper⟩, fun _ first others same => Or.inl ?_⟩,
    fun both => both.1.2⟩
  exact (List.cons.inj (List.cons.inj same).2).1.symm

/-- **A path alone** in a scheme that is not of the web. -/
theorem onlyScheme_iff_of_path (fit : AllChars (Fit scheme) items) (otherMade : Made other)
    (noWeb : isWebScheme scheme = false)
    (read : readAbsolute none scheme (uri.pathChars ++ uri.tailText) = .ok other) :
    OnlyScheme scheme uri other ↔ StaysIn scheme uri := by
  have notFile : decide (scheme = "file") = false := decide_eq_false (ne_file noWeb)
  have webless : isWebScheme scheme = true → scheme = "file" := fun isWeb =>
    absurd (isWeb.symm.trans noWeb) (by decide)
  have changed := scheme_of_readAbsolute read
  have isWritten := (made.bears kept_fit).query
  have fitShown := fit_shown fit uri.dotted
  rw [pathChars_of_rooted? rooted] at read
  by_cases hidden : ∃ first rest, shown uri.dotted items = "" :: first :: rest
  · obtain ⟨first, rest, isHidden⟩ := hidden
    obtain ⟨noDot, isItems⟩ := of_shown_eq isHidden
    have hiddenRead := of_readAbsolute_hidden fitShown noWeb isHidden isWritten otherMade read
    by_cases empty : first = ""
    · obtain ⟨segments, blank, query⟩ := hiddenRead (Or.inl empty)
      subst empty
      refine onlyScheme_iff_of_kept made absent rooted fit webless
        (hostless_of_blank (blank rfl)) changed query rest ?_ ?_ ?_
      · rw [isItems]
        rfl
      · rw [segments, notFile]
      · rw [notFile]
        exact lasting_iff_of_empty lasting_outside_iff isItems
    · refine onlyScheme_iff_of_lost made absent rooted rest noDot isItems empty
        (fun isFile => absurd isFile (ne_file noWeb)) rfl fun only => ?_
      have same := only.host
      rw [(hostless_of_none absent).host] at same
      rw [notFile]
      exact (hiddenRead (Or.inr (Option.map_eq_none_iff.mp same))).1
  · have single : ∀ first rest, shown uri.dotted items ≠ "" :: first :: rest :=
      fun first rest same => hidden ⟨first, rest, same⟩
    obtain ⟨bare, segments, query⟩ := of_readAbsolute_rooted fitShown noWeb single isWritten
      otherMade read
    refine onlyScheme_iff_of_kept made absent rooted fit webless (hostless_of_none bare) changed
      query items rfl ?_ (lasting_iff_of_single single)
    rw [segments, foldl_place_shown, notFile]

end Absent

section AbsentFile

variable (absent : uri.authority = none) (rooted : uri.path.rooted? = some items)
  (fit : AllChars (Fit "file") items) (otherMade : Made other)
include made absent rooted fit otherMade

/-- A file that is read from the root stays if what is kept of the segments lasts. -/
theorem onlyScheme_iff_of_keptFile {others : List String} (fitOthers : AllChars (Fit "file") others)
    (isOther : other = fileUri "" false (.after []) ((Text.join "/" others).toList ++ uri.tailText))
    (kept : List String) (same : items.filter (· ≠ "") = kept.filter (· ≠ ""))
    (read : others.foldl (place true false) [] = kept.foldl (place true false) [])
    (lasting_iff : Lasting true kept ↔ Lasting true items ∧
      (uri.dotted = false → ∀ first rest, items = "" :: first :: rest →
        first = "" ∨ "file" = "file" ∧ isPlainDrive first = true)) :
    OnlyScheme "file" uri other ↔ StaysIn "file" uri := by
  obtain ⟨changed, hostless, query, segments⟩ := of_fileRoot made fitOthers otherMade isOther
  exact onlyScheme_iff_of_kept made absent rooted fit (fun _ => rfl) hostless changed query kept same
    (segments.trans (congrArg (List.filter _) read)) lasting_iff

section Hidden

variable {first : String} {rest : List String} (isItems : items = "" :: first :: rest)
include isItems

/-- A drive letter in the place of a host is the first segment. -/
theorem onlyScheme_iff_of_drive (noDot : uri.dotted = false) (isDrive : isDriveLetter first = true)
    (isOther : other = fileUri "" false (.after [])
      (first.toList ++ ((Path.segmentsText rest).toList ++ uri.tailText))) :
    OnlyScheme "file" uri other ↔ StaysIn "file" uri := by
  have fitKept : AllChars (Fit "file") (first :: rest) := fit.mono (by simp [isItems])
  rw [← List.append_assoc, ← toList_join_cons] at isOther
  refine onlyScheme_iff_of_keptFile made absent rooted fit otherMade fitKept isOther
    (first :: rest) (by rw [isItems]; rfl) rfl ?_
  rw [isItems, lasting_empty_iff]
  constructor
  · intro lasting
    refine ⟨lasting.proper, fun _ other others same => Or.inr ⟨rfl, ?_⟩⟩
    obtain rfl := (List.cons.inj (List.cons.inj same).2).1
    exact lasting.drive rfl first rfl isDrive
  · rintro ⟨proper, slashes⟩
    refine ⟨proper, fun _ other isFirst _ => ?_⟩
    obtain rfl := Option.some.inj isFirst
    rcases slashes noDot first rest rfl with empty | ⟨-, plain⟩
    · exact absurd empty (ne_empty_of_isDriveLetter isDrive)
    · exact plain

/-- **A file of which the path begins with two slashes.** -/
theorem onlyScheme_iff_of_hidden (noDot : uri.dotted = false)
    (read : fileWithHost (first.toList ++ ((Path.segmentsText rest).toList ++ uri.tailText))
      = .ok other) :
    OnlyScheme "file" uri other ↔ StaysIn "file" uri := by
  have fitFirst : ∀ c ∈ first.toList, Fit "file" c := fit first (by simp [isItems])
  have fitRest : AllChars (Fit "file") rest := fit.mono (by simp [isItems])
  have isJoin : (Path.segmentsText rest).toList = (Text.join "/" ("" :: rest)).toList := by
    rw [toList_join_cons]
    rfl
  have parts := of_fileWithHost (fun c member => (fitFirst c member).goesOn)
    (fun c member => inner_of_stays_path (fitFirst c member).stays)
    (endsAuthority_append (head?_segmentsText rest)) read
  have lost : first.toList ≠ [] → isDriveLetter (String.ofList first.toList) = false →
      ∀ others : List String, others.filter (· ≠ "") = rest.filter (· ≠ "") →
      other.segments = (others.foldl (place true false) []).filter (· ≠ "") →
      (OnlyScheme "file" uri other ↔ StaysIn "file" uri) := by
    intro given noDrive others same segments
    rw [String.ofList_toList] at noDrive
    exact onlyScheme_iff_of_lost made absent rooted others noDot isItems
      (fun empty => given (String.toList_inj.mpr empty)) (fun _ => noDrive) same fun _ => segments
  cases parts with
  | drive isDrive isOther =>
    rw [String.ofList_toList] at isDrive
    exact onlyScheme_iff_of_drive made absent rooted fit otherMade isItems noDot isDrive isOther
  | hostless nothing isOther =>
    have empty : first = "" := String.toList_inj.mp nothing
    subst empty
    rw [isJoin] at isOther
    exact onlyScheme_iff_of_keptFile made absent rooted fit otherMade fitRest.cons_empty isOther
      ("" :: rest) (by rw [isItems]; rfl) rfl (lasting_iff_of_empty lasting_empty_iff isItems)
  | localhost given isLocal noDrive isOther =>
    rw [isJoin] at isOther
    obtain ⟨-, -, -, segments⟩ := of_fileRoot made fitRest.cons_empty otherMade isOther
    exact lost given noDrive ("" :: rest) rfl segments
  | @host found given isFound remote noDrive isOther =>
    rw [dropSlash_segmentsText] at isOther
    obtain ⟨-, path, -⟩ := fileUri_join fitRest (made.bears kept_fit).query found true
    rw [← isOther] at path
    refine lost given noDrive rest rfl ?_
    rw [otherMade.segments_eq path, filter_walkPath_join fitRest]
    rfl

end Hidden

/-- **A file without an authority.** -/
theorem onlyScheme_iff_of_pathFile
    (read : readAbsolute none "file" (uri.pathChars ++ uri.tailText) = .ok other) :
    OnlyScheme "file" uri other ↔ StaysIn "file" uri := by
  have fitShown := fit_shown fit uri.dotted
  rw [pathChars_of_rooted? rooted] at read
  by_cases hidden : ∃ first rest, shown uri.dotted items = "" :: first :: rest
  · obtain ⟨first, rest, isHidden⟩ := hidden
    obtain ⟨noDot, isItems⟩ := of_shown_eq isHidden
    rw [segmentsText_hidden isHidden] at read
    exact onlyScheme_iff_of_hidden made absent rooted fit otherMade isItems noDot
      (fileWithHost_of_readAbsolute read)
  · have single : ∀ first rest, shown uri.dotted items ≠ "" :: first :: rest :=
      fun first rest same => hidden ⟨first, rest, same⟩
    have isFile := readFile_of_readAbsolute read
    rw [readFile_rooted fitShown single] at isFile
    exact onlyScheme_iff_of_keptFile made absent rooted fit otherMade fitShown
      (Except.ok.inj isFile).symm items rfl (foldl_place_shown true uri.dotted [] items)
      (lasting_iff_of_single single)

end AbsentFile

end Alone

end Switchboard.Uri
