import Mathlib.Data.List.TakeDrop
import Mathlib.Data.List.TakeWhile
import Switchboard.Proofs.Uri.Made
/-!
URIs of hosts in the same process that are read from text.

The text of such a URI is a scheme, two slashes, a host name, a path and perhaps a query. If path and
query are as a URI holds them, they are read as they are, and the authority is read from the name
alone.

* `Uri.parse_slashes`: a text that begins so is read as a URI with an authority.
* `Uri.parse_direct`: the URI that is read from a name, settled segments and a written query.
-/

namespace Switchboard.Uri

open Text

/-! ### Texts without breaks -/

theorem dropBreaks_of_unbroken {before text : List Char} (unbroken : ∀ c ∈ text, isBreak c = false) :
    dropBreaks before text = text := by
  induction text generalizing before with
  | nil => rfl
  | cons c rest ih =>
    obtain ⟨first, others⟩ := List.forall_mem_cons.mp unbroken
    rw [dropBreaks, if_pos (by simp [first]), ih others]

theorem dropBreaks_of_inner {before text : List Char} (inner : ∀ c ∈ text, Inner c) :
    dropBreaks before text = text :=
  dropBreaks_of_unbroken fun c member => isBreak_eq_false_of_inner (inner c member)

/-- No breaks are dropped from the end of a text that has none there. -/
theorem dropBreaks_append {before front back : List Char} (inner : ∀ c ∈ back, Inner c) :
    dropBreaks before (front ++ back) = dropBreaks before front ++ back := by
  induction front generalizing before with
  | nil => exact dropBreaks_of_inner inner
  | cons c rest ih =>
    rw [List.cons_append, dropBreaks, dropBreaks]
    split
    · rw [ih, List.cons_append]
    · split
      · rw [ih, List.cons_append]
      · exact ih

theorem mem_of_mem_dropBreaks {before text : List Char} {c : Char}
    (member : c ∈ dropBreaks before text) : c ∈ text := by
  induction text generalizing before with
  | nil => exact member
  | cons d rest ih =>
    rw [dropBreaks] at member
    split at member
    · rcases List.mem_cons.mp member with rfl | later
      · exact List.mem_cons_self
      · exact List.mem_cons_of_mem d (ih later)
    · split at member
      · rcases List.mem_cons.mp member with rfl | later
        · exact List.mem_cons_self
        · exact List.mem_cons_of_mem d (ih later)
      · exact List.mem_cons_of_mem d (ih member)

theorem dropEndWhile_append {junk : Char → Bool} (front : List Char) {last : Char}
    {back : List Char} (kept : ∀ c ∈ last :: back, junk c = false) :
    dropEndWhile junk (front ++ last :: back) = front ++ last :: back := by
  have nonempty : (last :: back).reverse ≠ [] := by simp
  obtain ⟨final, others, reversed⟩ := List.exists_cons_of_ne_nil nonempty
  have isKept : junk final = false := by
    apply kept
    rw [← List.mem_reverse, reversed]
    exact List.mem_cons_self
  rw [dropEndWhile, List.reverse_append, reversed, List.cons_append, List.dropWhile_cons_of_neg
    (by simp [isKept]), ← List.cons_append, ← reversed, ← List.reverse_append, List.reverse_reverse]

theorem span_append {junk : Char → Bool} {front : List Char} {c : Char} {rest : List Char}
    (all : ∀ d ∈ front, junk d = true) (stops : junk c = false) :
    (front ++ c :: rest).span junk = (front, c :: rest) := by
  rw [List.span_eq_takeWhile_dropWhile, List.takeWhile_append_of_pos all,
    List.dropWhile_append_of_pos all]
  simp [stops]

theorem span_of_all {junk : Char → Bool} {text : List Char} (all : ∀ d ∈ text, junk d = true) :
    text.span junk = (text, []) := by
  rw [List.span_eq_takeWhile_dropWhile, List.takeWhile_eq_self_iff.mpr all,
    List.dropWhile_eq_nil_iff.mpr all]

/-! ### The scheme and two slashes -/

/-- What is read before every host in the same process. -/
def localFront : List Char := "local://".toList

/-- What counts of a host name after the scheme and two slashes. -/
def hostChars (name : String) : List Char := dropBreaks localFront.reverse name.toList

theorem cleaned_eq {text : String} {name : String} {tail : List Char}
    (isText : text.toList = localFront ++ (name.toList ++ '/' :: tail))
    (inner : ∀ c ∈ tail, Inner c) :
    cleaned text = localFront ++ (hostChars name ++ '/' :: tail) := by
  have innerToo : ∀ c ∈ '/' :: tail, Inner c :=
    List.forall_mem_cons.mpr ⟨show (0x20 : Nat) < '/'.toNat by decide, inner⟩
  have noEdge : ∀ c ∈ '/' :: tail, decide (c.toNat ≤ 0x20) = false :=
    fun c member => decide_eq_false (Nat.not_le_of_lt (innerToo c member))
  have starts : (localFront ++ (name.toList ++ '/' :: tail)).dropWhile
      (fun c => decide (c.toNat ≤ 0x20)) = localFront ++ (name.toList ++ '/' :: tail) := by
    have isFront : localFront = 'l' :: "ocal://".toList := by decide
    rw [isFront, List.cons_append, List.dropWhile_cons_of_neg (by decide)]
  have front : ∀ text, dropBreaks [] (localFront ++ text)
      = localFront ++ dropBreaks localFront.reverse text := by
    intro text
    rfl
  unfold cleaned
  rw [isText]
  dsimp only
  rw [starts, ← List.append_assoc, dropEndWhile_append _ noEdge, List.append_assoc, front,
    dropBreaks_append innerToo]
  rfl

/-- **A text that begins with the scheme and two slashes** is read as a URI with an authority. -/
theorem parse_slashes {text : String} {name : String} {tail : List Char}
    (isText : text.toList = localFront ++ (name.toList ++ '/' :: tail))
    (inner : ∀ c ∈ tail, Inner c) :
    parse text = withAuthority localScheme (hostChars name ++ '/' :: tail) := by
  have scheme : ∀ rest, scheme? (localFront ++ rest) = some (localScheme, '/' :: '/' :: rest) := by
    intro rest
    rfl
  unfold parse parseWith
  rw [cleaned_eq isText inner]
  dsimp only
  rw [scheme]
  rfl

/-! ### Authorities -/

theorem readPort_rest {value : Option Nat} {digits : List Char} (free : '\\' ∉ digits)
    {port : Option Nat} {rest : List Char} (read : readPort value digits = .ok (port, rest)) :
    rest = [] := by
  induction digits generalizing value with
  | nil =>
    cases read
    rfl
  | cons c digits ih =>
    rw [List.mem_cons, not_or] at free
    have noBackslash : (c == '\\') = false := beq_eq_false_iff_ne.mpr (Ne.symm free.1)
    unfold readPort at read
    split at read
    · dsimp only at read
      split at read
      · exact ih free.2 read
      · cases read
    · rw [noBackslash] at read
      cases read

theorem mem_of_mem_spanHost {c : Char} {inBrackets : Bool} {text : List Char}
    (member : c ∈ (spanHost inBrackets text).2) : c ∈ text := by
  induction text generalizing inBrackets with
  | nil => exact member
  | cons d rest ih =>
    unfold spanHost at member
    split at member
    · exact member
    · exact List.mem_cons_of_mem d (ih member)

theorem mem_of_cutAtLast {c d : Char} {text before after : List Char}
    (cut : cutAtLast c text = some (before, after)) (member : d ∈ after) : d ∈ text := by
  unfold cutAtLast at cut
  obtain ⟨⟨back, front⟩, found, same⟩ := Option.map_eq_some_iff.mp cut
  cases same
  rw [← List.mem_reverse, append_of_cutAt found]
  exact List.mem_append_left _ (List.mem_reverse.mp member)

/-- The text of a host is what is left after the name of a user. -/
theorem mem_of_mem_hostText {c : Char} {text : List Char}
    (member : c ∈ ((cutAtLast '@' text).elim (none, text) fun (user, host) =>
      (some user, host)).2) : c ∈ text := by
  cases cut : cutAtLast '@' text with
  | none =>
    rw [cut] at member
    exact member
  | some pair =>
    rw [cut] at member
    exact mem_of_cutAtLast cut member

/-- What is found behind a guard has passed it. -/
theorem of_guarded {refused : Prop} [Decidable refused] {ε α β : Type} {fault : ε} {found one : α}
    {tail rest : β} (read : (if refused then Except.error fault else .ok (found, tail))
      = .ok (one, rest)) : ¬ refused ∧ found = one := by
  split at read
  · cases read
  · rename_i passed
    cases read
    exact ⟨passed, rfl⟩

/-- **What follows an authority** has no part in it, outside the web and without a backslash. -/
theorem readAuthority_of_tail {scheme : String} (noWeb : isWebScheme scheme = false)
    {text : List Char} (free : '\\' ∉ text) {one other : List Char} (given : one ≠ [])
    {authority : Authority} {rest : List Char}
    (read : readAuthority scheme text one = .ok (authority, rest)) :
    readAuthority scheme text other = .ok (authority, other) := by
  unfold readAuthority at read ⊢
  generalize cutAll : (cutAtLast '@' text).elim (none, text) _ = parts at read ⊢
  have within : ∀ c ∈ parts.2, c ∈ text := fun c member => mem_of_mem_hostText (cutAll ▸ member)
  obtain ⟨user, hostText⟩ := parts
  dsimp only at read within ⊢
  -- The only thing that is asked of the tail is whether it is there, and only if nothing else is.
  by_cases empty : user = some [] ∧ hostText = []
  · rw [if_pos ⟨empty.1, empty.2, given⟩] at read
    cases read
  rw [if_neg fun all => empty ⟨all.1, all.2.1⟩] at read ⊢
  have portFree : '\\' ∉ (spanHost false hostText).2 :=
    fun member => free (within _ (mem_of_mem_spanHost member))
  simp only [noWeb, Bool.false_eq_true, if_false] at read ⊢
  cases parsed : Host.parseOther (spanHost false hostText).1 with
  | error fault =>
    rw [parsed] at read
    cases read
  | ok host =>
    rw [parsed] at read
    change (if host = "" ∧ (spanHost false hostText).2 ≠ [] then _ else _) = _ at read
    change (if host = "" ∧ (spanHost false hostText).2 ≠ [] then _ else _) = _
    split at read
    · cases read
    · rename_i hosted
      rw [if_neg hosted]
      cases ported : (spanHost false hostText).2 with
      | nil =>
        rw [ported] at read
        obtain ⟨userless, rfl⟩ := of_guarded read
        exact if_neg userless
      | cons colon digits =>
        rw [ported] at read
        cases port : readPort none digits with
        | error fault =>
          simp only [port] at read
          cases read
        | ok pair =>
          obtain ⟨port, left⟩ := pair
          obtain rfl : left = [] := by
            apply readPort_rest _ port
            rw [ported] at portFree
            exact fun member => portFree (List.mem_cons_of_mem colon member)
          simp only [port] at read ⊢
          obtain ⟨userless, rfl⟩ := of_guarded read
          exact if_neg userless

/-! ### Paths and queries -/

/-- The text of a URI of a host in the same process. -/
def directText (name : String) (items : List String) (query : Option String) : String :=
  localScheme ++ "://" ++ name ++ "/" ++ Text.join "/" items ++ marked "?" query

/-- Says that a text holds nothing that ends a host name. -/
def IsHostName (name : String) : Prop := ∀ c ∈ name.toList, c ∉ ['/', '?', '#', '\\']

theorem toList_directText (name : String) (items : List String) (query : Option String) :
    (directText name items query).toList = localFront ++ (name.toList ++
      '/' :: ((Text.join "/" items).toList ++ (marked "?" query).toList)) := by
  have front : (localScheme ++ "://").toList = localFront := by decide
  have slash : "/".toList = ['/'] := by decide
  rw [directText, String.toList_append, String.toList_append, String.toList_append,
    String.toList_append, front, slash]
  simp only [List.append_assoc, List.cons_append, List.nil_append]

theorem of_mem_join {items : List String} (settled : ∀ item ∈ items, Settled item) {c : Char}
    (member : c ∈ (Text.join "/" items).toList) : c = '/' ∨ Percent.Stays Percent.path c := by
  rw [toList_join] at member
  rcases of_mem_joinWith member with isSlash | ⟨piece, isPiece, inPiece⟩
  · exact Or.inl isSlash
  · obtain ⟨item, isItem, rfl⟩ := List.mem_map.mp isPiece
    exact Or.inr ((settled item isItem).stays c inPiece)

/-- Settled segments that are set are there afterwards. An empty path has one empty segment. -/
theorem replace_settled {uri : Uri} (hierarchy : uri.isLiteral = false)
    (noWeb : isWebScheme uri.scheme = false) {items : List String}
    (settled : ∀ item ∈ items, Settled item) :
    uri.replace items = { uri with path := .segments (if items = [] then [""] else items) } := by
  have inner : ∀ c ∈ (Text.join "/" items).toList, Inner c := by
    intro c member
    rcases of_mem_join settled member with rfl | stays
    · decide
    · exact inner_of_stays_path stays
  rw [replace_eq hierarchy noWeb, dropBreaks_of_inner inner, readPathFrom_join noWeb settled]

theorem of_mem_marked {query : Option String} (isWritten : QueryWritten query) {c : Char}
    (member : c ∈ (marked "?" query).toList) : c = '?' ∨ Percent.Stays Percent.query c := by
  cases query with
  | none => cases member
  | some text =>
    rw [marked, String.toList_append] at member
    rcases List.mem_append.mp member with isMark | inText
    · exact Or.inl (List.mem_singleton.mp isMark)
    · exact Or.inr (isWritten text rfl c inText)

/-- A path ends where its query begins. -/
theorem spanPath_join {items : List String} (settled : ∀ item ∈ items, Settled item)
    (query : Option String) :
    spanPath ('/' :: ((Text.join "/" items).toList ++ (marked "?" query).toList))
      = ('/' :: (Text.join "/" items).toList, (marked "?" query).toList) := by
  have inPath : ∀ c ∈ '/' :: (Text.join "/" items).toList, (c != '?' && c != '#') = true := by
    intro c member
    have held : c = '/' ∨ Percent.Stays Percent.path c := by
      rcases List.mem_cons.mp member with isSlash | inItems
      · exact Or.inl isSlash
      · exact of_mem_join settled inItems
    rcases held with rfl | stays
    · decide
    · have notMark : c ≠ '?' := by
        rintro rfl
        exact absurd stays (by decide)
      have notHash : c ≠ '#' := by
        rintro rfl
        exact absurd stays (by decide)
      simp [notMark, notHash]
  unfold spanPath
  rw [← List.cons_append]
  cases query with
  | none =>
    rw [marked, String.toList_empty, List.append_nil]
    exact span_of_all inPath
  | some text =>
    rw [marked, String.toList_append]
    exact span_append inPath (by decide)

/-- A query that is written is read as it is. -/
theorem readTail_marked {scheme : String} (noWeb : isWebScheme scheme = false)
    {query : Option String} (isWritten : QueryWritten query) :
    readTail scheme (marked "?" query).toList = (query, none) := by
  cases query with
  | none => rfl
  | some text =>
    have stays := isWritten text rfl
    have unbroken : text.toList.span (· != '#') = (text.toList, []) := by
      apply span_of_all
      intro c member
      have notHash : c ≠ '#' := by
        rintro rfl
        exact absurd (stays '#' member) (by decide)
      simp [notHash]
    have itself : readQuery scheme text.toList = text := by
      have isPlain : plain text.toList = text.toList :=
        plain_eq_self fun c member => inner_of_stays_query (stays c member)
      rw [readQuery, noWeb, isPlain, if_neg Bool.false_ne_true, Percent.write_eq_self stays,
        String.ofList_toList]
    rw [marked, String.toList_append]
    show readTail scheme ('?' :: text.toList) = _
    simp only [readTail, unbroken, itself]

/-! ### Whole URIs -/

theorem spanAuthority_name {name : List Char} (isName : ∀ c ∈ name, c ∉ ['/', '?', '#', '\\'])
    (tail : List Char) :
    spanAuthority localScheme (name ++ '/' :: tail) = (name, '/' :: tail) := by
  apply span_append
  · intro c member
    have differs := isName c member
    have noWeb : isWebScheme localScheme = false := by decide
    simp only [List.mem_cons, List.not_mem_nil, or_false, not_or] at differs
    simp [differs, noWeb]
  · decide

/-- The text of a host alone is read as a URI with an authority. -/
theorem parse_root (name : String) : parse (localScheme ++ "://" ++ name ++ "/")
    = withAuthority localScheme (hostChars name ++ ['/']) := by
  have isText : localScheme ++ "://" ++ name ++ "/" = directText name [] none := by
    simp [directText, Text.join, marked]
  rw [isText]
  exact parse_slashes (toList_directText name [] none) (List.forall_mem_nil _)

/-- Whatever a host is named, its URI has the local scheme and a hierarchy. -/
theorem of_parse_root {name : String} {root : Uri}
    (isRoot : parse (localScheme ++ "://" ++ name ++ "/") = .ok root) :
    root.scheme = localScheme ∧ root.isLiteral = false := by
  rw [parse_root, withAuthority_eq] at isRoot
  cases read : readAuthority localScheme
      (plain (spanAuthority localScheme (hostChars name ++ ['/'])).1)
      (spanAuthority localScheme (hostChars name ++ ['/'])).2 with
  | error fault =>
    rw [read] at isRoot
    cases isRoot
  | ok pair =>
    rw [read] at isRoot
    cases isRoot
    exact ⟨rfl, rfl⟩

/-- What is read after an authority, from settled segments and a written query. -/
theorem withAuthority_direct {name : List Char} (isName : ∀ c ∈ name, c ∉ ['/', '?', '#', '\\'])
    {authority : Authority} {rest : List Char}
    (read : readAuthority localScheme (plain name) ['/'] = .ok (authority, rest))
    {items : List String} (settled : ∀ item ∈ items, Settled item) {query : Option String}
    (isWritten : QueryWritten query) : withAuthority localScheme
      (name ++ '/' :: ((Text.join "/" items).toList ++ (marked "?" query).toList))
      = .ok { scheme := localScheme, authority := some authority, dotted := false
              path := .segments (if items = [] then [""] else items), query, fragment := none } := by
  have noWeb : isWebScheme localScheme = false := by decide
  have free : '\\' ∉ plain name := by
    intro member
    exact isName '\\' (List.mem_filter.mp member).1 (by decide)
  have path : readPath localScheme ('/' :: (Text.join "/" items).toList)
      = if items = [] then [""] else items := by
    rw [← readPathFrom_join noWeb settled]
    rfl
  rw [withAuthority_eq, spanAuthority_name isName,
    readAuthority_of_tail noWeb free (List.cons_ne_nil _ _) read]
  simp only [Except.map, spanPath_join settled, path, readTail_marked noWeb isWritten]

/-- **The URI that is read** from the text of a host, settled segments and a written query is that of
the host alone with these as its path and query. -/
theorem parse_direct {name : String} (isName : IsHostName name) {root : Uri}
    (isRoot : parse (localScheme ++ "://" ++ name ++ "/") = .ok root) {items : List String}
    (settled : ∀ item ∈ items, Settled item) {query : Option String}
    (isWritten : QueryWritten query) : parse (directText name items query)
      = .ok { root with path := .segments (if items = [] then [""] else items), query } := by
  have isChars : ∀ c ∈ hostChars name, c ∉ ['/', '?', '#', '\\'] :=
    fun c member => isName c (mem_of_mem_dropBreaks member)
  rw [parse_root] at isRoot
  cases read : readAuthority localScheme (plain (hostChars name)) ['/'] with
  | error fault =>
    rw [withAuthority_eq, spanAuthority_name isChars, read] at isRoot
    cases isRoot
  | ok pair =>
    have inner : ∀ c ∈ (Text.join "/" items).toList ++ (marked "?" query).toList, Inner c := by
      intro c member
      rcases List.mem_append.mp member with inPath | inQuery
      · rcases of_mem_join settled inPath with rfl | stays
        · decide
        · exact inner_of_stays_path stays
      · rcases of_mem_marked isWritten inQuery with rfl | stays
        · decide
        · exact inner_of_stays_query stays
    have alone := @withAuthority_direct _ isChars _ _ read [] (List.forall_mem_nil _) _
      queryWritten_none
    obtain rfl := Except.ok.inj (isRoot.symm.trans alone)
    rw [parse_slashes (toList_directText name items query) inner]
    exact withAuthority_direct isChars read settled isWritten

/-- The segments of a path that has one empty segment if it has no others. -/
theorem segments_of_filled {uri : Uri} {items : List String}
    (path : uri.path = .segments (if items = [] then [""] else items))
    (given : ∀ item ∈ items, item ≠ "") (single : ∀ item ∈ items, '/' ∉ item.toList) :
    uri.segments = items := by
  cases items with
  | nil =>
    rw [segments_eq path (by decide)]
    decide
  | cons item rest =>
    rw [if_neg (List.cons_ne_nil item rest)] at path
    rw [segments_eq path single, List.filter_eq_self]
    simpa using given

end Switchboard.Uri
