import Switchboard.Proofs.Uri.OnlyScheme
/-!
URIs with an authority in another scheme.

An authority is found again where it was, except that those of files are nothing but a host. A host
comes back up to case if the scheme is not of the web or the host looks like those of the web.

* `Uri.onlyScheme_iff_of_authority`: what stays in schemes other than that of files.
* `Uri.onlyScheme_iff_of_file`: what stays as a file.
* `Uri.onlyScheme_iff_of_root`: what stays of a file that is read from the root.
-/

namespace Switchboard.Uri

open Text

section Change

variable {uri other : Uri} (made : Made uri) {scheme : String} {items : List String}

/-! ### After an authority -/

section Authority

variable {authority : Authority} (given : uri.authority = some authority)
  (rooted : uri.path.rooted? = some items)

include given rooted in
/-- What stays of a URI with an authority. -/
theorem staysIn_of_authority (fit : AllChars (Fit scheme) items)
    (hosted : isWebScheme scheme = true → scheme ≠ "file" → uri.host? ≠ none)
    (name : isWebScheme scheme = true → ∀ host ∈ uri.host?, Host.OfWeb host)
    (file : scheme = "file" → FileHost uri) (held : Held scheme (uri.placed scheme)) :
    StaysIn scheme uri where
  hosted := hosted
  name := name
  file := file
  held := held
  slashes absent := by
    rw [given] at absent
    cases absent
  written _ := stays_of_fit rooted fit
  literal _ absent := by
    rw [rooted] at absent
    cases absent

include made in
/-- Whether a host comes back. -/
theorem map_lower_host?_iff (given : uri.authority = some authority) {found : Authority}
    (isFound : other.authority = some found)
    (hosted : isWebScheme scheme = true → uri.host? ≠ none)
    (read : readHost scheme authority.host.toList = .ok found.host) :
    other.host?.map lower = uri.host?.map lower
      ↔ (isWebScheme scheme = true → ∀ host ∈ uri.host?, Host.OfWeb host) := by
  have shape := made.shape given
  rw [host?_of_authority given] at hosted ⊢
  rw [host?_of_authority isFound]
  unfold readHost at read
  split at read
  · rename_i isWeb
    have notEmpty : authority.host ≠ "" := fun empty => hosted isWeb (if_pos empty)
    rw [if_neg notEmpty, if_neg (Host.ne_empty_of_parseWeb read), Option.map_some, Option.map_some,
      Option.some_inj, Host.parseWeb_iff shape read]
    exact ⟨fun ofWeb _ host isHost => Option.some.inj isHost ▸ ofWeb, fun all => all isWeb _ rfl⟩
  · rename_i noWeb
    rw [Except.ok.inj ((Host.parseOther_of_shape shape).symm.trans read)]
    exact ⟨fun _ isWeb => absurd isWeb noWeb, fun _ => rfl⟩

include made given rooted in
/-- **A URI with an authority** in a scheme other than that of files. -/
theorem onlyScheme_iff_of_authority (otherMade : Made other) (fit : AllChars (Fit scheme) items)
    (noFile : scheme ≠ "file") (hosted : isWebScheme scheme = true → uri.host? ≠ none)
    (read : readAbsolute none scheme
      ('/' :: '/' :: (authority.text.toList ++ (uri.pathChars ++ uri.tailText))) = .ok other) :
    OnlyScheme scheme uri other ↔ StaysIn scheme uri := by
  have changed := scheme_of_readAbsolute read
  have isPlaced : uri.placed scheme = items := by simp [placed, rooted, noFile]
  have inAuthority := inAuthority_of_mem_text (made.user given) (made.shape given)
  have isText : isWebScheme scheme = true → ∃ c rest, authority.text.toList = c :: rest := by
    intro isWeb
    refine List.exists_cons_of_ne_nil fun nothing => hosted isWeb ?_
    rw [toList_text] at nothing
    have empty := (List.append_eq_nil_iff.mp (List.append_eq_nil_iff.mp nothing).2).1
    rw [host?_of_authority given]
    exact if_pos (String.toList_inj.mp empty)
  have noSlash : isWebScheme scheme = true →
      ∀ c ∈ (authority.text.toList ++ (uri.pathChars ++ uri.tailText)).head?, c ∉ ['/', '\\'] := by
    intro isWeb c isHead
    obtain ⟨first, rest, whole⟩ := isText isWeb
    rw [whole] at isHead inAuthority
    obtain rfl := Option.some.inj isHead
    have ends := (inAuthority first List.mem_cons_self).ends
    simp only [List.mem_cons, List.not_mem_nil, or_false, not_or] at ends ⊢
    exact ⟨ends.1, ends.2.2.2⟩
  have notEmpty : isWebScheme scheme = true →
      authority.text.toList ++ (uri.pathChars ++ uri.tailText) ≠ [] := by
    intro isWeb nothing
    obtain ⟨first, rest, whole⟩ := isText isWeb
    rw [whole] at nothing
    cases nothing
  rw [readAbsolute_slashes noFile noSlash notEmpty] at read
  obtain ⟨⟨found, isFound, hostRead, isName, isPassword, isPort⟩, path, query⟩ :=
    of_withAuthority_parts made fit given rooted read
  have host := map_lower_host?_iff made given isFound hosted hostRead
  have segments : other.segments = uri.segments ↔ Lasting (decide (scheme = "file")) items := by
    refine segments_eq_iff (segments_of_rooted? rooted (single_of_rooted? made rooted)) rfl ?_
    rw [otherMade.segments_eq path, filter_readPath (fit_shown fit uri.dotted), foldl_place_shown]
  constructor
  · intro only
    refine staysIn_of_authority given rooted fit (fun isWeb _ => hosted isWeb)
      (host.mp only.host) (fun isFile => absurd isFile noFile) ?_
    rw [isPlaced]
    exact (held_iff fit).mpr (segments.mp only.segments)
  · intro stays
    have lasting := stays.held.lasting
    rw [isPlaced] at lasting
    refine ⟨changed, ?_, host.mpr stays.name, ?_, segments.mpr lasting,
      queryPairs_of_readQuery (made.bears kept_fit).query query⟩
    · rw [credentials, credentials, isFound, given]
      exact Prod.ext isName isPassword
    · rw [givenPort?, givenPort?, isFound, given]
      exact isPort

end Authority

/-! ### Files -/

theorem AllChars.cons_empty {holds : Char → Prop} (all : AllChars holds items) :
    AllChars holds ("" :: items) := by
  refine List.forall_mem_cons.mpr ⟨?_, all⟩
  exact fun _ absent => by cases absent

/-- What is put in place after an empty segment. -/
theorem foldl_place_empty (items : List String) (dotted : Bool) :
    ("" :: shown dotted items).foldl (place true false) []
      = ("" :: items).foldl (place true false) [] := by
  rw [List.foldl_cons, List.foldl_cons, foldl_place_shown]

/-- The slash before a path is dropped. -/
theorem dropSlash_segmentsText (items : List String) :
    dropSlash ((Path.segmentsText items).toList ++ uri.tailText)
      = (Text.join "/" items).toList ++ uri.tailText := by
  cases items with
  | nil =>
    show dropSlash uri.tailText = uri.tailText
    rcases uri.tailText_eq with nothing | ⟨c, rest, isTail, isMark⟩
    · rw [nothing]
      rfl
    · rw [isTail]
      rcases isMark with rfl | rfl <;> rfl
  | cons item rest =>
    rw [toList_segmentsText_cons]
    rfl

section Files

variable {others : List String} (fit : AllChars (Fit "file") others)

include made fit in
/-- What is read as a file from the root has no host. -/
theorem of_fileRoot (otherMade : Made other)
    (isOther : other
      = fileUri "" false (.after []) ((Text.join "/" others).toList ++ uri.tailText)) :
    other.scheme = "file" ∧ Hostless other ∧
      other.query = uri.query.map (fun text => readQuery "file" text.toList) ∧
      other.segments = (others.foldl (place true false) []).filter (· ≠ "") := by
  obtain ⟨authority, path, query⟩ := fileUri_join fit (made.bears kept_fit).query "" false
  rw [← isOther] at authority path query
  refine ⟨by rw [isOther]; rfl, hostless_of_blank authority, query, ?_⟩
  rw [otherMade.segments_eq path, filter_walkPath_join fit]
  rfl

include made in
/-- What is read as a file of another host has this host, unless its path begins with a drive. -/
theorem of_remoteFile (fit : AllChars (Fit "file") items) (otherMade : Made other) {found : String}
    (named : found ≠ "")
    (isOther : other = fileUri found true (.after [])
      ((Text.join "/" (shown uri.dotted items)).toList ++ uri.tailText)) :
    other.scheme = "file" ∧ other.credentials = ("", "") ∧ other.givenPort? = none ∧
      other.query = uri.query.map (fun text => readQuery "file" text.toList) ∧
      other.segments = (items.foldl (place true false) []).filter (· ≠ "") ∧
      (Lasting true items →
        other.host? = if items.head?.any isDriveLetter then none else some found) := by
  have fitShown := fit_shown fit uri.dotted
  obtain ⟨authority, path, query⟩ := fileUri_join fitShown (made.bears kept_fit).query found true
  rw [← isOther] at authority path query
  refine ⟨by rw [isOther]; rfl, ?_, ?_, query, ?_, fun lasting => ?_⟩
  · rw [credentials, authority]
  · rw [givenPort?, authority]
    rfl
  · rw [otherMade.segments_eq path, filter_walkPath_join fitShown]
    exact congrArg (List.filter _) (foldl_place_shown true uri.dotted [] items)
  · have drive := drive_walkPath_shown fit lasting.proper uri.dotted
    rw [host?_of_authority authority, Bool.true_and, drive]
    split
    · rfl
    · rfl

include made fit in
/-- **A file that is read from the root** is the same without a host if its segments last. -/
theorem onlyScheme_iff_of_root (otherMade : Made other) (own : Hostless uri)
    (segments : uri.segments = items.filter (· ≠ ""))
    (same : others.foldl (place true false) [] = items.foldl (place true false) [])
    (isOther : other
      = fileUri "" false (.after []) ((Text.join "/" others).toList ++ uri.tailText)) :
    OnlyScheme "file" uri other ↔ Lasting true items := by
  obtain ⟨changed, hostless, query, read⟩ := of_fileRoot made fit otherMade isOther
  have pairs := queryPairs_of_readQuery (made.bears kept_fit).query query
  rw [own.onlyScheme_iff hostless changed pairs]
  exact segments_eq_iff segments rfl (read.trans (congrArg (List.filter _) same))

end Files

/-- Without a user and a port an authority is its host. -/
theorem text_eq_host {authority : Authority} (given : uri.authority = some authority)
    (user : uri.credentials = ("", "")) (port : uri.givenPort? = none) :
    authority.text = authority.host := by
  rw [credentials, given] at user
  rw [givenPort?, given] at port
  have isPort : authority.port = none := port
  have isName : authority.username = "" := congrArg Prod.fst user
  have isPassword : authority.password = "" := congrArg Prod.snd user
  rw [← String.toList_inj, toList_text, Authority.userText, isName, isPassword, isPort]
  simp [portText]

/-- No host is a drive letter. -/
theorem not_isDriveLetter_of_shape {host : String} (shape : Host.Shape host) :
    isDriveLetter host = false := by
  refine Bool.eq_false_iff.mpr fun drive => ?_
  unfold isDriveLetter at drive
  split at drive
  · rename_i letter mark text
    have member : mark ∈ host.toList := by simp [text]
    simp only [Bool.and_eq_true, Bool.or_eq_true, beq_iff_eq] at drive
    cases shape with
    | words areWords whole isHost =>
      rw [isHost, Host.toList_eightWordsText] at text
      have bracket := (List.cons.inj text).1
      rw [← bracket] at drive
      exact absurd drive.1 (by decide)
    | name inName =>
      rcases drive.2 with rfl | rfl
      · exact absurd (inName _ member).clear (by decide)
      · exact absurd (inName _ member).clear (by decide)
  · cases drive

theorem readFile_of_readAbsolute {text : List Char}
    (read : readAbsolute none "file" text = .ok other) : readFile none text = .ok other := by
  unfold readAbsolute at read
  rwa [if_pos rfl] at read

/-- What begins with two slashes is read as a file with a host. -/
theorem fileWithHost_of_readAbsolute {text : List Char}
    (read : readAbsolute none "file" ('/' :: '/' :: text) = .ok other) :
    fileWithHost text = .ok other :=
  readFile_of_readAbsolute read

section FileHost

variable {authority : Authority} (given : uri.authority = some authority)
  (rooted : uri.path.rooted? = some items)
include made given rooted

/-- **A file with a host** that is not this one. -/
theorem onlyScheme_iff_of_remote (otherMade : Made other) (fit : AllChars (Fit "file") items)
    (user : uri.credentials = ("", "")) (port : uri.givenPort? = none)
    (host : uri.host? = some authority.host) {found : String}
    (isFound : Host.parseWeb authority.host.toList = .ok found) (remote : found ≠ "localhost")
    (isOther : other = fileUri found true (.after [])
      ((Text.join "/" (shown uri.dotted items)).toList ++ uri.tailText)) :
    OnlyScheme "file" uri other ↔ StaysIn "file" uri := by
  have shape := made.shape given
  have ofWeb := Host.parseWeb_iff shape isFound
  have isPlaced : uri.placed "file" = items := by simp [placed, rooted, host]
  obtain ⟨changed, otherUser, otherPort, query, isRead, otherHost⟩ :=
    of_remoteFile made fit otherMade (Host.ne_empty_of_parseWeb isFound) isOther
  have segments : other.segments = uri.segments ↔ Lasting true items :=
    segments_eq_iff (segments_of_rooted? rooted (single_of_rooted? made rooted)) rfl isRead
  constructor
  · intro only
    have lasting := segments.mp only.segments
    have same := only.host
    rw [otherHost lasting, host] at same
    split at same
    · cases same
    · rename_i noDrive
      have isName := ofWeb.mp (Option.some.inj same)
      have small : found = lower authority.host :=
        Host.eq_lower_of_parseWeb shape isName
          ((Host.parseWeb_toList_lower shape isName.decoded).trans isFound)
      refine staysIn_of_authority given rooted fit (fun _ noFile => absurd rfl noFile) ?_ ?_ ?_
      · intro _ name isHost
        rw [host] at isHost
        exact Option.some.inj isHost ▸ isName
      · refine fun _ => ⟨user, port, fun name isHost => ?_, fun _ other isItems first isFirst => ?_⟩
        · rw [host] at isHost
          rw [← Option.some.inj isHost, ← small]
          exact remote
        · obtain rfl := Option.some.inj (rooted.symm.trans isItems)
          rw [isFirst] at noDrive
          exact eq_false_of_ne_true noDrive
      · rw [isPlaced]
        exact (held_iff fit).mpr lasting
  · intro stays
    have lasting : Lasting true items := by
      have held := stays.held
      rw [isPlaced] at held
      exact held.lasting
    have noDrive : ¬ items.head?.any isDriveLetter = true := by
      intro drive
      obtain ⟨first, isFirst, isDrive⟩ := (Option.any_eq_true _ _).mp drive
      have noDrive := (stays.file rfl).drive (by simp [host]) items rooted first isFirst
      exact absurd (noDrive.symm.trans isDrive) Bool.false_ne_true
    refine ⟨changed, otherUser.trans user.symm, ?_, ?_, segments.mpr lasting,
      queryPairs_of_readQuery (made.bears kept_fit).query query⟩
    · rw [otherHost lasting, if_neg noDrive, host]
      exact congrArg some (ofWeb.mpr (stays.name (by decide) _ host))
    · rw [port, otherPort, ite_self]

/-- **A file with an authority**, which has nothing but a host. -/
theorem onlyScheme_iff_of_bare (otherMade : Made other) (fit : AllChars (Fit "file") items)
    (user : uri.credentials = ("", "")) (port : uri.givenPort? = none)
    (read : readAbsolute none "file"
      ('/' :: '/' :: (authority.text.toList ++ (uri.pathChars ++ uri.tailText))) = .ok other) :
    OnlyScheme "file" uri other ↔ StaysIn "file" uri := by
  have shape := made.shape given
  have isPath := pathChars_of_rooted? rooted
  have bears := made.bears kept_fit
  have fitShown := fit_shown fit uri.dotted
  have own := segments_of_rooted? rooted (single_of_rooted? made rooted)
  have inAuthority := inAuthority_of_shape shape
  rw [text_eq_host given user port, isPath] at read
  have parts := of_fileWithHost (fun c member => (inAuthority c member).goesOn "file")
    (fun c member => (inAuthority c member).inner) (endsAuthority_append (head?_segmentsText _))
    (fileWithHost_of_readAbsolute read)
  have host := host?_of_authority given
  cases parts with
  | drive isDrive =>
    rw [String.ofList_toList, not_isDriveLetter_of_shape shape] at isDrive
    cases isDrive
  | hostless nothing isOther =>
    rw [if_pos (String.toList_inj.mp nothing)] at host
    have hostless : Hostless uri := ⟨user, host, port⟩
    have isPlaced : uri.placed "file" = "" :: items := by simp [placed, rooted, given, host]
    have isJoin : (Path.segmentsText (shown uri.dotted items)).toList
        = (Text.join "/" ("" :: shown uri.dotted items)).toList := by
      rw [toList_join_cons]
      rfl
    rw [isJoin] at isOther
    have same : uri.segments = ("" :: items).filter (· ≠ "") := own
    rw [onlyScheme_iff_of_root made fitShown.cons_empty otherMade hostless same
      (foldl_place_empty items uri.dotted) isOther]
    have held := held_iff fit.cons_empty
    rw [← isPlaced] at held
    constructor
    · intro lasting
      refine staysIn_of_authority given rooted fit (fun _ noFile => absurd rfl noFile)
        (fun _ name isHost => ?_) (fun _ => hostless.fileHost)
        (held.mpr (isPlaced ▸ lasting))
      rw [host] at isHost
      cases isHost
    · intro stays
      exact isPlaced ▸ held.mp stays.held
  | localhost notEmpty isLocal noDrive isOther =>
    rw [if_neg fun empty => notEmpty (String.toList_inj.mpr empty)] at host
    refine ⟨fun only => ?_, fun stays => ?_⟩
    · have none : other.host? = none := by
        rw [isOther]
        exact (hostless_of_blank rfl).host
      have same := only.host
      rw [none, host] at same
      cases same
    · have same := (Host.parseWeb_iff shape isLocal).mpr (stays.name (by decide) _ host)
      exact absurd same.symm ((stays.file rfl).remote _ host)
  | @host found notEmpty isFound remote noDrive isOther =>
    rw [if_neg fun empty => notEmpty (String.toList_inj.mpr empty)] at host
    rw [dropSlash_segmentsText] at isOther
    exact onlyScheme_iff_of_remote made given rooted otherMade fit user port host isFound remote
      isOther

/-- What has an authority is a file only if that has nothing but a host. -/
theorem onlyScheme_iff_of_file (otherMade : Made other) (fit : AllChars (Fit "file") items)
    (read : readAbsolute none "file"
      ('/' :: '/' :: (authority.text.toList ++ (uri.pathChars ++ uri.tailText))) = .ok other) :
    OnlyScheme "file" uri other ↔ StaysIn "file" uri := by
  constructor
  · intro only
    obtain ⟨-, host, isOther⟩ := of_readFile (readFile_of_readAbsolute read)
    have user := only.user
    have port := only.port
    rw [credentials, isOther] at user
    rw [givenPort?, isOther] at port
    have noDefault : defaultPort? "file" = none := by decide
    have portless : uri.givenPort? = none := by
      rw [noDefault] at port
      split at port
      · assumption
      · exact port.symm
    exact (onlyScheme_iff_of_bare made given rooted otherMade fit user.symm portless read).mp only
  · intro stays
    have bare := stays.file rfl
    exact (onlyScheme_iff_of_bare made given rooted otherMade fit bare.user bare.port read).mpr
      stays

end FileHost

end Change

end Switchboard.Uri
