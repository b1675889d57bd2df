import Switchboard.Proofs.Uri.Rooted
import Switchboard.Proofs.Uri.Written
/-!
URIs that are read in another scheme.

The parts of a URI that is written are found again one after the other, in every scheme: the
authority ends where it did and the path does. What the scheme decides is the place of the path.
After an authority it is read from the root, and so it is after one slash; what begins with two
slashes is read as an authority. The schemes of the web read an authority after any slashes, and
files a drive letter in its place.

* `Uri.of_withAuthority_parts`: what is read of a URI with an authority.
* `Uri.of_readAbsolute_rooted` and `Uri.of_readAbsolute_hidden`: what is read of a path alone,
  outside the web.
* `Uri.of_fileWithHost` and `Uri.readFile_rooted`: what is read as a file.
* `Uri.host?_of_web`: whatever is read in a scheme of the web has a host, unless it is a file.
-/

namespace Switchboard.Uri

open Text

/-! ### What follows an authority -/

/-- Says that a text begins with what ends an authority, if with anything. -/
def EndsAuthority (text : List Char) : Prop := ∀ c ∈ text.head?, c = '/' ∨ c = '?' ∨ c = '#'

theorem endsAuthority_append {uri : Uri} {path : List Char} (rooted : ∀ c ∈ path.head?, c = '/') :
    EndsAuthority (path ++ uri.tailText) := by
  cases path with
  | nil =>
    rcases uri.tailText_eq with nothing | ⟨c, rest, isTail, isMark⟩
    · rw [List.nil_append, nothing]
      exact fun _ absent => nomatch absent
    · rw [List.nil_append, isTail]
      intro d same
      exact Or.inr (Option.some.inj same ▸ isMark)
  | cons c rest =>
    intro d same
    exact Or.inl (Option.some.inj same ▸ rooted c rfl)

/-- Says that a character goes on with an authority of a scheme. -/
def GoesOn (scheme : String) (c : Char) : Prop :=
  c ∉ ['/', '?', '#'] ∧ (isWebScheme scheme = true → c ≠ '\\')

theorem InAuthority.goesOn {c : Char} (inAuthority : InAuthority c) (scheme : String) :
    GoesOn scheme c := by
  have ends := inAuthority.ends
  simp only [List.mem_cons, List.not_mem_nil, or_false, not_or] at ends
  exact ⟨by simp [ends], fun _ => ends.2.2.2⟩

theorem Fit.goesOn {scheme : String} {c : Char} (fit : Fit scheme c) : GoesOn scheme c := by
  refine ⟨fun member => ?_, fit.unified⟩
  have marks : ∀ c ∈ ['?', '#'], ¬ Percent.Stays Percent.path c :=
    List.all_iff_forall_prop.mp (by decide)
  rcases List.mem_cons.mp member with isSlash | isMark
  · exact fit.single isSlash
  · exact marks c isMark fit.stays

/-- An authority ends where the path or the tail begins. -/
theorem spanAuthority_text {scheme : String} {text rest : List Char}
    (goesOn : ∀ c ∈ text, GoesOn scheme c) (ends : EndsAuthority rest) :
    spanAuthority scheme (text ++ rest) = (text, rest) := by
  have all : ∀ c ∈ text, (!(c == '/' || c == '?' || c == '#' ||
      (isWebScheme scheme && c == '\\'))) = true := by
    intro c member
    obtain ⟨noMark, noBackslash⟩ := goesOn c member
    simp only [List.mem_cons, List.not_mem_nil, or_false, not_or] at noMark
    cases isWeb : isWebScheme scheme with
    | false => simp [noMark]
    | true => simp [noMark, noBackslash isWeb]
  unfold spanAuthority
  cases rest with
  | nil =>
    rw [List.append_nil]
    exact span_of_all all
  | cons c others =>
    refine span_append all ?_
    rcases ends c rfl with rfl | rfl | rfl <;> simp

theorem head?_segmentsText (items : List String) :
    ∀ c ∈ (Path.segmentsText items).toList.head?, c = '/' := by
  cases items with
  | nil => exact fun _ absent => nomatch absent
  | cons item rest =>
    rw [toList_segmentsText]
    exact fun c same => (Option.some.inj same).symm

/-- A path that can stand in a URI ends where the tail begins. -/
theorem spanPath_segmentsText {scheme : String} {items : List String}
    (fit : AllChars (Fit scheme) items) (uri : Uri) :
    spanPath ((Path.segmentsText items).toList ++ uri.tailText)
      = ((Path.segmentsText items).toList, uri.tailText) := by
  refine spanPath_tailText uri fun c member => ?_
  rcases of_mem_segmentsText member with rfl | ⟨item, isItem, inItem⟩
  · decide
  · have stays := (fit item isItem c inItem).stays
    have marks : ¬ Percent.Stays Percent.path '?' ∧ ¬ Percent.Stays Percent.path '#' := by decide
    exact ⟨fun isMark => marks.1 (isMark ▸ stays), fun isMark => marks.2 (isMark ▸ stays)⟩

/-! ### Read in another scheme -/

section Recast

variable {uri other : Uri} (made : Made uri) {scheme : String} {items : List String}
  (fit : AllChars (Fit scheme) items)

/-- The path of what is read with an authority. -/
theorem pathChars_of_rooted? (rooted : uri.path.rooted? = some items) :
    uri.pathChars = (Path.segmentsText (shown uri.dotted items)).toList := by
  rw [pathChars, pathText, Path.text_of_rooted? rooted, shown]
  cases uri.dotted with
  | false => rfl
  | true => simp [Path.segmentsText]

/-- What is read after two slashes, in parts. -/
theorem of_withAuthority {text : List Char} (read : withAuthority scheme text = .ok other) :
    ∃ found rest, AuthorityRead scheme (plain (spanAuthority scheme text).1)
        (spanAuthority scheme text).2 found rest ∧ other.authority = some found ∧
      other.path = .segments (readPath scheme (spanPath rest).1) ∧
      other.query = (readTail scheme (spanPath rest).2).1 := by
  rw [withAuthority_eq] at read
  cases isFound : readAuthority scheme (plain (spanAuthority scheme text).1)
      (spanAuthority scheme text).2 with
  | error fault =>
    rw [isFound] at read
    cases read
  | ok pair =>
    obtain ⟨found, rest⟩ := pair
    rw [isFound] at read
    obtain rfl := Except.ok.inj read
    exact ⟨found, rest, of_readAuthority isFound, rfl, rfl, rfl⟩

include made fit in
/-- **What is read of the parts of a URI** after two slashes. -/
theorem of_withAuthority_parts {authority : Authority} (given : uri.authority = some authority)
    (rooted : uri.path.rooted? = some items)
    (read : withAuthority scheme (authority.text.toList ++ (uri.pathChars ++ uri.tailText))
      = .ok other) :
    (∃ found, other.authority = some found ∧
      readHost scheme authority.host.toList = .ok found.host ∧
      found.username = authority.username ∧ found.password = authority.password ∧
      found.port = (if authority.port = defaultPort? scheme then none else authority.port)) ∧
    other.path = .segments (readPath scheme (Path.segmentsText (shown uri.dotted items)).toList) ∧
    other.query = uri.query.map fun text => readQuery scheme text.toList := by
  have bears := made.bears kept_fit
  have inAuthority := inAuthority_of_mem_text (made.user given) (made.shape given)
  have isPath := pathChars_of_rooted? rooted
  have ends : EndsAuthority (uri.pathChars ++ uri.tailText) :=
    endsAuthority_append (isPath ▸ head?_segmentsText _)
  have plainText : plain authority.text.toList = authority.text.toList :=
    plain_eq_self fun c member => (inAuthority c member).inner
  obtain ⟨found, rest, parts, isAuthority, path, query⟩ := of_withAuthority read
  rw [spanAuthority_text (fun c member => (inAuthority c member).goesOn scheme) ends,
    plainText] at parts
  obtain ⟨host, rfl, user⟩ := parts.of_text (made.user given) (made.shape given)
  rw [isPath, spanPath_segmentsText (fit_shown fit uri.dotted)] at path query
  rw [readTail_tailText bears.query] at query
  exact ⟨⟨found, isAuthority, host, user⟩, path, query⟩

/-! ### Schemes of the web -/

/-- Whatever is read in a scheme of the web other than that of files has a host. -/
theorem host?_of_web (isWeb : isWebScheme scheme = true) (noFile : scheme ≠ "file")
    {text : List Char} (read : readAbsolute none scheme text = .ok other) : other.host? ≠ none := by
  unfold readAbsolute at read
  rw [if_neg noFile, if_pos isWeb] at read
  obtain ⟨found, rest, parts, isAuthority, -⟩ := of_withAuthority read
  have hostRead := parts.host
  rw [readHost, if_pos isWeb] at hostRead
  rw [host?, isAuthority]
  simp [Host.ne_empty_of_parseWeb hostRead]

/-- All files have a hierarchy, and no user or port. -/
theorem of_readFile {text : List Char} (read : readFile none text = .ok other) :
    other.isLiteral = false ∧ ∃ host, other.authority = some ⟨"", "", host, none⟩ := by
  unfold readFile at read
  split at read
  · obtain ⟨_, _, _, -, rfl⟩ := exists_fileUri_of_fileWithHost read
    exact ⟨rfl, _, rfl⟩
  · cases read
    exact ⟨rfl, _, rfl⟩
  · cases read
    exact ⟨rfl, _, rfl⟩

/-- What begins with a slash has a hierarchy. -/
theorem isLiteral_of_slash {text : List Char}
    (read : readAbsolute none scheme ('/' :: text) = .ok other) : other.isLiteral = false := by
  have withAuthority : ∀ {rest}, withAuthority scheme rest = .ok other →
      other.isLiteral = false := by
    intro rest read
    obtain ⟨_, _, _, _, path, _⟩ := of_withAuthority read
    rw [isLiteral, path]
  unfold readAbsolute at read
  split at read
  · exact (of_readFile read).1
  · split at read
    · exact withAuthority read
    · split at read
      · exact withAuthority read
      · have front : ∀ rest, spanPath ('/' :: rest)
            = ('/' :: (spanPath rest).1, (spanPath rest).2) := by
          intro rest
          rw [spanPath, spanPath, List.span_eq_takeWhile_dropWhile,
            List.span_eq_takeWhile_dropWhile]
          rfl
        rw [front] at read
        cases read
        rfl

/-- After an authority everything is read as standing behind two slashes. -/
theorem readAbsolute_slashes (noFile : scheme ≠ "file") {text : List Char}
    (hosted : isWebScheme scheme = true → ∀ c ∈ text.head?, c ∉ ['/', '\\'])
    (given : isWebScheme scheme = true → text ≠ []) :
    readAbsolute none scheme ('/' :: '/' :: text) = withAuthority scheme text := by
  unfold readAbsolute
  rw [if_neg noFile]
  split
  · rename_i isWeb
    obtain ⟨c, rest, rfl⟩ := List.exists_cons_of_ne_nil (given isWeb)
    have noSlash := hosted isWeb c rfl
    simp only [List.mem_cons, List.not_mem_nil, or_false, not_or] at noSlash
    have slashes : ('/' :: '/' :: c :: rest).takeWhile (fun c => c == '/' || c == '\\')
        = ['/', '/'] := by simp [noSlash]
    rw [slashes]
    rfl
  · rfl

/-! ### Without an authority -/

/-- The segments of what is read of a path. -/
theorem Made.segments_eq (made : Made uri) (path : uri.path = .segments items) :
    uri.segments = items.filter (· ≠ "") :=
  Uri.segments_eq path fun item member slash =>
    ((made.bears kept_fit).path items path item member '/' slash).single rfl

theorem toList_segmentsText_cons (item : String) (rest : List String) :
    (Path.segmentsText (item :: rest)).toList
      = '/' :: (Text.join "/" (item :: rest)).toList := by
  rw [segmentsText_of_ne_nil (List.cons_ne_nil item rest), pathOf, String.toList_append]
  rfl

theorem toList_join_cons (item : String) (rest : List String) :
    (Text.join "/" (item :: rest)).toList = item.toList ++ (Path.segmentsText rest).toList := by
  have whole : '/' :: (Text.join "/" (item :: rest)).toList
      = '/' :: (item.toList ++ (Path.segmentsText rest).toList) := by
    rw [← toList_segmentsText_cons, toList_segmentsText]
  exact (List.cons.inj whole).2

/-- After an empty segment a path begins with two slashes. -/
theorem segmentsText_hidden {first : String} {rest : List String}
    (hidden : items = "" :: first :: rest) (tail : List Char) :
    (Path.segmentsText items).toList ++ tail
      = '/' :: '/' :: (first.toList ++ ((Path.segmentsText rest).toList ++ tail)) := by
  rw [hidden, toList_segmentsText, toList_segmentsText, ← List.append_assoc]
  rfl

/-- What comes after the first slash of a path is no slash, unless an empty segment stands in front
of others. -/
theorem head?_join_tailText (fit : AllChars (Fit scheme) items)
    (single : ∀ first rest, items ≠ "" :: first :: rest) :
    ∀ c ∈ ((Text.join "/" items).toList ++ uri.tailText).head?,
      c ≠ '/' ∧ (isWebScheme scheme = true → c ≠ '\\') := by
  have marks : ∀ c ∈ uri.tailText.head?, c ≠ '/' ∧ (isWebScheme scheme = true → c ≠ '\\') := by
    rcases uri.tailText_eq with nothing | ⟨c, rest, isTail, isMark⟩
    · rw [nothing]
      exact fun _ absent => nomatch absent
    · rw [isTail]
      intro d same
      obtain rfl := Option.some.inj same
      rcases isMark with rfl | rfl
      · exact ⟨by decide, fun _ => by decide⟩
      · exact ⟨by decide, fun _ => by decide⟩
  cases items with
  | nil => exact marks
  | cons item rest =>
    by_cases empty : item = ""
    · subst empty
      cases rest with
      | nil => exact marks
      | cons next others => exact absurd rfl (single next others)
    · obtain ⟨c, others, isText⟩ := List.exists_cons_of_ne_nil
        (show item.toList ≠ [] from fun nothing => empty (String.toList_inj.mp nothing))
      have member : c ∈ item.toList := isText ▸ List.mem_cons_self
      have fits := fit item List.mem_cons_self c member
      have front : ∃ more, (Text.join "/" (item :: rest)).toList ++ uri.tailText = c :: more := by
        rw [toList_join_cons, isText]
        exact ⟨_, rfl⟩
      obtain ⟨more, isFront⟩ := front
      rw [isFront]
      intro d same
      obtain rfl := Option.some.inj same
      exact ⟨fits.single, fits.unified⟩

section Rooted

variable (noWeb : isWebScheme scheme = false)
include fit noWeb

/-- **A path that begins with one slash** is read as it stands. -/
theorem of_readAbsolute_rooted (single : ∀ first rest, items ≠ "" :: first :: rest)
    (isWritten : QueryWritten uri.query) (otherMade : Made other)
    (read : readAbsolute none scheme ((Path.segmentsText items).toList ++ uri.tailText)
      = .ok other) :
    other.authority = none ∧
    other.segments = (items.foldl (place false false) []).filter (· ≠ "") ∧
    other.query = uri.query.map fun text => readQuery scheme text.toList := by
  have notFile : decide (scheme = "file") = false := decide_eq_false (ne_file noWeb)
  have noSlashes : ∀ rest, (Path.segmentsText items).toList ++ uri.tailText
      ≠ '/' :: '/' :: rest := by
    intro rest same
    have head : ∀ c ∈ ((Text.join "/" items).toList ++ uri.tailText).head?, _ :=
      head?_join_tailText fit single
    cases items with
    | nil => exact (head '/' (congrArg List.head? same)).1 rfl
    | cons item others =>
      rw [toList_segmentsText_cons] at same
      exact (head '/' (congrArg List.head? (List.cons.inj same).2)).1 rfl
  have isTail := readTail_tailText isWritten scheme
  have parts := spanPath_segmentsText fit uri
  unfold readAbsolute at read
  rw [if_neg (ne_file noWeb), noWeb, if_neg Bool.false_ne_true] at read
  split at read
  · rename_i rest isText
    exact absurd isText (noSlashes rest)
  · rw [parts] at read
    cases items with
    | nil =>
      obtain rfl := Except.ok.inj read
      refine ⟨rfl, ?_, isTail⟩
      show (split '/' "").filter (· ≠ "") = []
      decide
    | cons item others =>
      rw [toList_segmentsText_cons] at read
      obtain rfl := Except.ok.inj read
      refine ⟨rfl, ?_, isTail⟩
      rw [otherMade.segments_eq rfl, readPathFrom, filter_walkPath_join fit, notFile]

/-- **A path that begins with two slashes** is read as an authority and what comes after it. -/
theorem of_readAbsolute_hidden {first : String} {rest : List String}
    (hidden : items = "" :: first :: rest) (isWritten : QueryWritten uri.query)
    (otherMade : Made other)
    (read : readAbsolute none scheme ((Path.segmentsText items).toList ++ uri.tailText)
      = .ok other) (hostless : first = "" ∨ other.host? = none) :
    other.segments = (rest.foldl (place false false) []).filter (· ≠ "") ∧
    (first = "" → other.authority = some ⟨"", "", "", none⟩) ∧
    other.query = uri.query.map fun text => readQuery scheme text.toList := by
  have notFile : decide (scheme = "file") = false := decide_eq_false (ne_file noWeb)
  have fitFirst : ∀ c ∈ first.toList, Fit scheme c := fit first (by simp [hidden])
  have fitRest : AllChars (Fit scheme) rest := fit.mono (by simp [hidden])
  have isText := segmentsText_hidden hidden uri.tailText
  have outside : ∀ {anything : Prop}, isWebScheme scheme = true → anything :=
    fun isWeb => absurd (isWeb.symm.trans noWeb) (by decide)
  have plainText : plain first.toList = first.toList :=
    plain_eq_self fun c member => inner_of_stays_path (fitFirst c member).stays
  rw [isText, readAbsolute_slashes (ne_file noWeb) outside outside] at read
  obtain ⟨found, left, parts, isAuthority, path, query⟩ := of_withAuthority read
  rw [spanAuthority_text (fun c member => (fitFirst c member).goesOn)
    (endsAuthority_append (head?_segmentsText rest)), plainText] at parts
  have noHost : found.host = "" := by
    rcases hostless with empty | hostless
    · have hostRead := parts.host
      rw [empty, readHost, noWeb, if_neg Bool.false_ne_true] at hostRead
      exact (Except.ok.inj hostRead).symm
    · rw [host?, isAuthority] at hostless
      by_contra given
      simp [given] at hostless
  obtain ⟨port, more, portRead, isPort, isLeft⟩ := parts.port
  rw [parts.hosted noHost] at portRead
  cases portRead
  rw [isLeft, List.nil_append, spanPath_segmentsText fitRest] at path query
  rw [readTail_tailText isWritten] at query
  refine ⟨?_, fun empty => ?_, query⟩
  · rw [otherMade.segments_eq path, filter_readPath fitRest, notFile]
  · subst empty
    have noName : found.username = "" := parts.username.trans (by decide)
    have noPassword : found.password = "" := parts.password.trans (by decide)
    have noPort : found.port = none := isPort.trans (by split <;> rfl)
    have whole : found = ⟨found.username, found.password, found.host, found.port⟩ := rfl
    rw [isAuthority, whole, noName, noPassword, noHost, noPort]

end Rooted

/-! ### Files -/

/-- **What a file with a host is read as**, from the name and what comes after it. -/
inductive FileRead (name rest : List Char) (other : Uri) : Prop where
  | drive : isDriveLetter (String.ofList name) = true →
      other = fileUri "" false (.after []) (name ++ rest) → FileRead name rest other
  | hostless : name = [] → other = fileUri "" false (.after []) rest → FileRead name rest other
  | localhost : name ≠ [] → Host.parseWeb name = .ok "localhost" →
      isDriveLetter (String.ofList name) = false →
      other = fileUri "" false (.after []) rest → FileRead name rest other
  | host {host : String} : name ≠ [] → Host.parseWeb name = .ok host → host ≠ "localhost" →
      isDriveLetter (String.ofList name) = false →
      other = fileUri host true (.after []) (dropSlash rest) → FileRead name rest other

theorem of_fileWithHost {name rest : List Char} (goesOn : ∀ c ∈ name, GoesOn "file" c)
    (inner : ∀ c ∈ name, Inner c) (ends : EndsAuthority rest)
    (read : fileWithHost (name ++ rest) = .ok other) : FileRead name rest other := by
  have parts : (name ++ rest).span (fun c => !(c == '/' || c == '\\' || c == '?' || c == '#'))
      = (name, rest) := by
    have same : (fun c => !(c == '/' || c == '\\' || c == '?' || c == '#'))
        = fun c => !(c == '/' || c == '?' || c == '#' || (isWebScheme "file" && c == '\\')) := by
      funext c
      have isWeb : isWebScheme "file" = true := by decide
      rw [isWeb, Bool.true_and]
      cases c == '/' <;> cases c == '\\' <;> cases c == '?' <;> cases c == '#' <;> rfl
    rw [same]
    exact spanAuthority_text goesOn ends
  unfold fileWithHost at read
  rw [parts] at read
  dsimp only at read
  rw [plain_eq_self inner] at read
  split at read
  · rename_i drive
    exact .drive drive (Except.ok.inj read).symm
  · rename_i noDrive
    split at read
    · rename_i nothing
      exact .hostless nothing (Except.ok.inj read).symm
    · rename_i given
      obtain ⟨host, isHost, read⟩ := exists_of_bind read
      split at read
      · rename_i isLocal
        obtain rfl := isLocal.resolve_left (Host.ne_empty_of_parseWeb isHost)
        exact .localhost given isHost (eq_false_of_ne_true noDrive) (Except.ok.inj read).symm
      · rename_i remote
        exact .host given isHost (fun same => remote (Or.inr same)) (eq_false_of_ne_true noDrive)
          (Except.ok.inj read).symm

/-- A file without slashes in front is read from the root. -/
theorem readFile_plain {text : List Char} (head : ∀ c ∈ text.head?, c ≠ '/' ∧ c ≠ '\\') :
    readFile none text = .ok (fileUri "" false (.after []) text) := by
  cases text with
  | nil => rfl
  | cons c rest =>
    obtain ⟨noSlash, noBackslash⟩ := head c rfl
    have kept : unifySlashes true ((c :: rest).take 2) = c :: unifySlashes true (rest.take 1) := by
      simp [unifySlashes, noBackslash]
    unfold readFile
    rw [kept]
    split
    · rename_i same
      exact absurd (List.cons.inj same).1 noSlash
    · rename_i same
      exact absurd (List.cons.inj same).1 noSlash
    · rfl

/-- So is a file with one slash in front. -/
theorem readFile_slash {text : List Char} (head : ∀ c ∈ text.head?, c ≠ '/' ∧ c ≠ '\\') :
    readFile none ('/' :: text) = .ok (fileUri "" false (.after []) text) := by
  unfold readFile
  cases text with
  | nil => rfl
  | cons c rest =>
    obtain ⟨noSlash, noBackslash⟩ := head c rfl
    have kept : unifySlashes true (('/' :: c :: rest).take 2) = ['/', c] := by
      simp [unifySlashes, noBackslash]
    rw [kept]
    split
    · rename_i same
      exact absurd (List.cons.inj (List.cons.inj same).2).1 noSlash
    · rfl
    · rename_i noFront
      exact absurd rfl (noFront [c])

/-- **The path of a file that begins with one slash** is read from the root. -/
theorem readFile_rooted (fit : AllChars (Fit "file") items)
    (single : ∀ first rest, items ≠ "" :: first :: rest) :
    readFile none ((Path.segmentsText items).toList ++ uri.tailText)
      = .ok (fileUri "" false (.after []) ((Text.join "/" items).toList ++ uri.tailText)) := by
  have head : ∀ c ∈ ((Text.join "/" items).toList ++ uri.tailText).head?, c ≠ '/' ∧ c ≠ '\\' :=
    fun c same => ⟨(head?_join_tailText fit single c same).1,
      (head?_join_tailText fit single c same).2 (by decide)⟩
  cases items with
  | nil => exact readFile_plain head
  | cons item rest =>
    rw [toList_segmentsText_cons]
    exact readFile_slash head

/-- A file that is read from the root, in parts. -/
theorem fileUri_join (fit : AllChars (Fit "file") items) (isWritten : QueryWritten uri.query)
    (host : String) (yields : Bool) :
    let file := fileUri host yields (.after []) ((Text.join "/" items).toList ++ uri.tailText)
    let walk := walkPath "file" (.after []) (Text.join "/" items).toList
    file.authority = some ⟨"", "", if yields && walk.drive then "" else host, none⟩ ∧
      file.path = .segments walk.segments ∧
      file.query = uri.query.map fun text => readQuery "file" text.toList := by
  have parts : spanPath ((Text.join "/" items).toList ++ uri.tailText)
      = ((Text.join "/" items).toList, uri.tailText) := by
    refine spanPath_tailText uri fun c member => ?_
    rw [toList_join] at member
    rcases of_mem_joinWith member with rfl | ⟨piece, isPiece, inPiece⟩
    · decide
    · obtain ⟨item, isItem, rfl⟩ := List.mem_map.mp isPiece
      have goesOn := (fit item isItem c inPiece).goesOn.1
      simp only [List.mem_cons, List.not_mem_nil, or_false, not_or] at goesOn
      exact goesOn.2
  dsimp only [fileUri]
  rw [parts]
  exact ⟨rfl, rfl, readTail_tailText isWritten "file"⟩

end Recast

end Switchboard.Uri
