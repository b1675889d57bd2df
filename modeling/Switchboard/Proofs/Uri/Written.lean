import Switchboard.Proofs.Text.Pairs
import Switchboard.Proofs.Uri.Hosts
import Switchboard.Proofs.Uri.Places
import Switchboard.Proofs.Uri.Schemes
/-!
URIs that are read again after another scheme.

All parts of a URI are written, so the text of one holds no breaks, and blanks only in a path
without a hierarchy. After another scheme it is read as it stands, and the user, the host, the port
and the query are found where they were.

* `Uri.parse_restText`: what a URI is read from after another scheme.
* `Uri.AuthorityRead.of_text`: an authority is read as it stands, up to its host and to a port that
  the scheme has anyway.
* `Uri.readTail_tailText`: so is the query.
* `Uri.spanPath_tailText`: a path ends where the query or the fragment begins.
-/

namespace Switchboard.Uri

open Text

/-! ### After a scheme -/

/-- Says that a character can be trimmed from the end of a URI. -/
def isEdge (c : Char) : Bool := c.toNat ≤ 0x20

theorem isEdge_eq_false_of_inner {c : Char} (inner : Inner c) : isEdge c = false :=
  decide_eq_false (Nat.not_le_of_lt inner)

/-- **What stands after a scheme and a colon** is read as a URI of that scheme, up to blanks at its
end. -/
theorem parse_scheme {target text : String} {body : List Char} (valid : isScheme target = true)
    (isText : text.toList = target.toList ++ ':' :: body)
    (unbroken : ∀ c ∈ body, isBreak c = false) :
    parse text = readAbsolute none (lower target) (dropEndWhile isEdge body) := by
  have inner : ∀ c ∈ target.toList, Inner c := fun c member => (inner_of_isScheme valid member).1
  have free : ':' ∉ target.toList := fun member => (inner_of_isScheme valid member).2 rfl
  have colon : isEdge ':' = false := by decide
  have unbrokenRest : ∀ c ∈ dropEndWhile isEdge body, isBreak c = false := by
    intro c member
    rw [dropEndWhile, List.mem_reverse] at member
    exact unbroken c (List.mem_reverse.mp ((List.dropWhile_sublist _).subset member))
  have starts : target.toList.dropWhile isEdge = target.toList :=
    dropWhile_of_forall fun c member => isEdge_eq_false_of_inner (inner c member)
  have whole : cleaned text = target.toList ++ ':' :: dropEndWhile isEdge body := by
    show dropBreaks [] (dropEndWhile isEdge (text.toList.dropWhile isEdge)) = _
    rw [isText, dropWhile_append_stop _ colon, starts, dropEndWhile_append_stop _ colon]
    refine dropBreaks_of_unbroken fun c member => ?_
    rcases List.mem_append.mp member with inTarget | inRest
    · exact isBreak_eq_false_of_inner (inner c inTarget)
    · rcases List.mem_cons.mp inRest with rfl | inRest
      · decide
      · exact unbrokenRest c inRest
  have rest : (dropEndWhile isEdge body).dropWhile isBreak = dropEndWhile isEdge body :=
    dropWhile_of_forall unbrokenRest
  unfold parse parseWith
  rw [whole]
  dsimp only
  rw [scheme?_append free, String.ofList_toList, if_pos valid, rest]

/-! ### Queries and fragments -/

/-- The text of a query and a fragment. -/
def tailText (uri : Uri) : List Char :=
  (marked "?" uri.query).toList ++ (marked "#" uri.fragment).toList

theorem tailText_eq (uri : Uri) : uri.tailText = [] ∨ ∃ c rest, uri.tailText = c :: rest ∧
    (c = '?' ∨ c = '#') := by
  unfold tailText
  cases uri.query with
  | some query =>
    refine Or.inr ⟨'?', query.toList ++ (marked "#" uri.fragment).toList, ?_, Or.inl rfl⟩
    rw [marked, String.toList_append]
    rfl
  | none =>
    cases uri.fragment with
    | some fragment =>
      refine Or.inr ⟨'#', fragment.toList, ?_, Or.inr rfl⟩
      rw [marked, marked, String.toList_append]
      rfl
    | none => exact Or.inl rfl

/-- A path ends where a query or a fragment begins. -/
theorem spanPath_tailText (uri : Uri) {path : List Char} (free : ∀ c ∈ path, c ≠ '?' ∧ c ≠ '#') :
    spanPath (path ++ uri.tailText) = (path, uri.tailText) := by
  have inPath : ∀ c ∈ path, (c != '?' && c != '#') = true := fun c member => by
    simp [free c member]
  unfold spanPath
  rcases uri.tailText_eq with nothing | ⟨c, rest, isTail, isMark⟩
  · rw [nothing, List.append_nil]
    exact span_of_all inPath
  · rw [isTail]
    refine span_append inPath ?_
    rcases isMark with rfl | rfl <;> decide

/-- **The query is read** as it stands. -/
theorem readTail_tailText {uri : Uri} (isWritten : QueryWritten uri.query) (scheme : String) :
    (readTail scheme uri.tailText).1 = uri.query.map fun text => readQuery scheme text.toList := by
  unfold tailText
  cases query : uri.query with
  | none =>
    cases uri.fragment with
    | none => rfl
    | some fragment =>
      rw [marked, marked, String.toList_append]
      rfl
  | some text =>
    have inQuery : ∀ c ∈ text.toList, (c != '#') = true := by
      intro c member
      have stays := isWritten text query c member
      refine bne_iff_ne.mpr ?_
      rintro rfl
      exact absurd stays (by decide)
    have front : (marked "?" (some text)).toList ++ (marked "#" uri.fragment).toList
        = '?' :: (text.toList ++ (marked "#" uri.fragment).toList) := by
      rw [marked, String.toList_append]
      rfl
    rw [front]
    have cut : (text.toList ++ (marked "#" uri.fragment).toList).span (· != '#')
        = (text.toList, (marked "#" uri.fragment).toList) := by
      cases uri.fragment with
      | none =>
        rw [marked, String.toList_empty, List.append_nil]
        exact span_of_all inQuery
      | some fragment =>
        rw [marked, String.toList_append]
        exact span_append inQuery (by decide)
    simp only [readTail, cut, Option.map_some]

/-! ### Authorities -/

theorem cutAt_of_not_mem {c : Char} {text : List Char} (free : c ∉ text) : cutAt c text = none := by
  have cut := cutAt_front free []
  rwa [List.append_nil] at cut

theorem cutAtLast_of_not_mem {c : Char} {text : List Char} (free : c ∉ text) :
    cutAtLast c text = none := by
  have reversed : c ∉ text.reverse := fun member => free (List.mem_reverse.mp member)
  rw [cutAtLast, cutAt_of_not_mem reversed]
  rfl

/-- A cut at the last sign finds what stands before and after it. -/
theorem cutAtLast_append {c : Char} {back : List Char} (free : c ∉ back) (front : List Char) :
    cutAtLast c (front ++ c :: back) = some (front, back) := by
  have reversed : c ∉ back.reverse := fun member => free (List.mem_reverse.mp member)
  rw [cutAtLast, List.reverse_append, List.reverse_cons, List.append_assoc, List.singleton_append,
    cutAt_append reversed]
  simp

/-- A password stands after the first colon. -/
theorem cutPassword_append {name : List Char} (free : ':' ∉ name) (password : List Char) :
    cutPassword (some (name ++ ':' :: password)) = (name, password) := by
  rw [cutPassword, Option.getD_some, cutAt_append free]

/-- The characters of a port with its colon. -/
def portText : Option Nat → List Char
  | some port => ':' :: (decimal port).toList
  | none => []

theorem toList_text (authority : Authority) : authority.text.toList
    = authority.userText.toList ++ (authority.host.toList ++ portText authority.port) := by
  rw [Authority.text, String.toList_append, String.toList_append, List.append_assoc]
  cases authority.port with
  | none => rfl
  | some port =>
    rw [String.toList_append]
    rfl

/-- A host that was read holds no at sign. -/
theorem not_mem_of_shape {host : String} (shape : Host.Shape host) {c : Char}
    (reserved : Host.isReserved c = true) (outside : c ∉ Host.wordChars) : c ∉ host.toList := by
  intro member
  cases shape with
  | words _ _ isHost =>
    rw [isHost] at member
    exact outside (Host.mem_wordChars member)
  | name inName => exact absurd ((inName c member).clear.symm.trans reserved) Bool.false_ne_true

theorem not_mem_portText {c : Char} (noColon : c ≠ ':') (noDigit : c.isDigit = false)
    (port : Option Nat) : c ∉ portText port := by
  cases port with
  | none => exact List.not_mem_nil
  | some port =>
    intro member
    rcases List.mem_cons.mp member with isColon | isDigit
    · exact noColon isColon
    · rw [isDigit_of_mem_decimal isDigit] at noDigit
      cases noDigit

section Written

variable {authority : Authority} (user : UserWritten authority) (shape : Host.Shape authority.host)
include user shape

/-- **The user of an authority that is written** is cut off as it stands, the password apart. -/
theorem cutUser_text : (cutUser authority.text.toList).2
      = authority.host.toList ++ portText authority.port ∧
    cutPassword (cutUser authority.text.toList).1
      = (authority.username.toList, authority.password.toList) := by
  have free : '@' ∉ authority.host.toList ++ portText authority.port := by
    rw [List.mem_append, not_or]
    exact ⟨not_mem_of_shape shape (by decide) (by decide),
      not_mem_portText (by decide) (by decide) _⟩
  have noColon : ':' ∉ authority.username.toList := fun member =>
    absurd (user ':' (List.mem_append_left _ member)) (by decide)
  rw [toList_text, Authority.userText]
  by_cases userless : authority.username = "" ∧ authority.password = ""
  · rw [if_pos userless, String.toList_empty, List.nil_append, cutUser, cutAtLast_of_not_mem free,
      userless.1, userless.2]
    exact ⟨rfl, rfl⟩
  · rw [if_neg userless, String.toList_append, List.append_assoc]
    show (cutUser (_ ++ '@' :: (authority.host.toList ++ portText authority.port))).2 = _ ∧
      cutPassword (cutUser (_ ++ '@' :: (authority.host.toList ++ portText authority.port))).1 = _
    rw [cutUser, cutAtLast_append free]
    refine ⟨rfl, ?_⟩
    show cutPassword (some _) = _
    rw [String.toList_append]
    by_cases noPassword : authority.password = ""
    · rw [if_pos noPassword, noPassword, String.toList_empty, List.append_nil, cutPassword,
        Option.getD_some, cutAt_of_not_mem noColon]
    · rw [if_neg noPassword, String.toList_append]
      exact cutPassword_append noColon authority.password.toList

end Written

/-- Outside brackets a host ends at its first colon. -/
theorem spanHost_append {inBrackets : Bool} {front : List Char} (rest : List Char)
    (free : ∀ c ∈ front, (inBrackets = false → c ≠ ':') ∧ c ≠ '[' ∧ c ≠ ']') :
    spanHost inBrackets (front ++ rest)
      = (front ++ (spanHost inBrackets rest).1, (spanHost inBrackets rest).2) := by
  induction front with
  | nil => rfl
  | cons c others ih =>
    obtain ⟨⟨colon, opening, closing⟩, later⟩ := List.forall_mem_cons.mp free
    rw [List.cons_append, spanHost, if_neg (by cases inBrackets <;> simp [colon])]
    simp [opening, closing, ih later]

/-- **A host is split off** from the port after it. -/
theorem spanHost_host {host : String} (shape : Host.Shape host) (port : Option Nat) :
    spanHost false (host.toList ++ portText port) = (host.toList, portText port) := by
  have ported : spanHost false (portText port) = ([], portText port) := by
    cases port <;> rfl
  cases shape with
  | @words words _ _ isHost =>
    have inner : ∀ c ∈ Host.innerText words, (true = false → c ≠ ':') ∧ c ≠ '[' ∧ c ≠ ']' := by
      have digits : ∀ d ∈ List.range 16, (true = false → Nat.digitChar d ≠ ':') ∧
          Nat.digitChar d ≠ '[' ∧ Nat.digitChar d ≠ ']' := by decide
      intro c member
      rcases Host.of_mem_innerText member with rfl | ⟨d, small, rfl⟩
      · decide
      · exact digits d (List.mem_range.mpr small)
    rw [isHost, Host.toList_eightWordsText, List.cons_append, List.append_assoc]
    show ('[' :: (spanHost true (Host.innerText words ++ ']' :: portText port)).1,
      (spanHost true (Host.innerText words ++ ']' :: portText port)).2) = _
    rw [spanHost_append _ inner]
    show ('[' :: (Host.innerText words ++ ']' :: (spanHost false (portText port)).1),
      (spanHost false (portText port)).2) = _
    rw [ported]
  | name inName =>
    have free : ∀ c ∈ host.toList, (false = false → c ≠ ':') ∧ c ≠ '[' ∧ c ≠ ']' := by
      intro c member
      have clear := (inName c member).clear
      refine ⟨fun _ => ?_, ?_, ?_⟩
      all_goals
        rintro rfl
        exact absurd clear (by decide)
    rw [spanHost_append _ free, ported, List.append_nil]

/-- What is read of a port is what its digits are worth. -/
theorem eq_of_readPort {value : Nat} {digits rest : List Char} {port : Option Nat}
    (all : ∀ c ∈ digits, c.isDigit = true) (read : readPort (some value) digits = .ok (port, rest)) :
    port = some (Nat.ofDigitChars 10 digits value) := by
  induction digits generalizing value with
  | nil =>
    cases read
    rfl
  | cons c others ih =>
    obtain ⟨isDigit, later⟩ := List.forall_mem_cons.mp all
    rw [readPort] at read
    split at read
    · rename_i digit worth
      dsimp only at read
      split at read
      · have same : c.toNat - '0'.toNat = digit := by
          unfold Number.digitValue? at worth
          split at worth
          · exact Option.some.inj worth
          · cases worth
        rw [ih later read, Nat.ofDigitChars_cons, same, Nat.mul_comm]
        rfl
      · cases read
    · split at read
      · rename_i isBackslash
        rw [beq_iff_eq.mp isBackslash] at isDigit
        exact absurd isDigit (by decide)
      · cases read

/-- **The port of an authority that is written** is read as it stands, and nothing is left. -/
theorem eq_of_readPortText {port found : Option Nat} {left : List Char}
    (read : readPortText (portText port) = .ok (found, left)) : found = port ∧ left = [] := by
  cases port with
  | none =>
    cases read
    exact ⟨rfl, rfl⟩
  | some port =>
    have digits : ∀ c ∈ (decimal port).toList, c.isDigit = true := fun c => isDigit_of_mem_decimal
    have noBackslash : '\\' ∉ (decimal port).toList := fun member =>
      absurd (digits _ member) (by decide)
    refine ⟨?_, readPort_rest noBackslash read⟩
    have fromNone : readPort none (decimal port).toList = .ok (found, left) := read
    have given : (decimal port).toList ≠ [] := by
      rw [decimal, String.toList_ofList]
      exact Nat.toDigits_ne_nil
    obtain ⟨first, rest, isText⟩ := List.exists_cons_of_ne_nil given
    have fromZero : readPort (some 0) (decimal port).toList = .ok (found, left) := by
      have isDigit := digits first (isText ▸ List.mem_cons_self)
      have worth : Number.digitValue? first = some (first.toNat - 48) :=
        if_pos (Char.isDigit_iff_toNat.mp isDigit)
      rw [← fromNone, isText, readPort, readPort, worth]
      rfl
    rw [eq_of_readPort digits fromZero, decimal, String.toList_ofList,
      Nat.ofDigitChars_ten_toDigits]

/-- **An authority that is written** is read as it stands, up to its host and to a port that the
scheme has anyway. -/
theorem AuthorityRead.of_text {scheme : String} {authority found : Authority}
    (user : UserWritten authority) (shape : Host.Shape authority.host) {tail rest : List Char}
    (read : AuthorityRead scheme authority.text.toList tail found rest) :
    readHost scheme authority.host.toList = .ok found.host ∧ rest = tail ∧
      found.username = authority.username ∧ found.password = authority.password ∧
      found.port = (if authority.port = defaultPort? scheme then none else authority.port) := by
  obtain ⟨isHost, isUser⟩ := cutUser_text user shape
  have username := read.username
  have password := read.password
  have host := read.host
  obtain ⟨port, left, portRead, isPort, isRest⟩ := read.port
  rw [isHost, spanHost_host shape] at host portRead
  obtain ⟨rfl, rfl⟩ := eq_of_readPortText portRead
  rw [isUser, Percent.write_eq_self fun c member => user c (List.mem_append_left _ member),
    String.ofList_toList] at username
  rw [isUser, Percent.write_eq_self fun c member => user c (List.mem_append_right _ member),
    String.ofList_toList] at password
  exact ⟨host, isRest, username, password, isPort⟩

/-! ### The text of a URI -/

theorem stays_path_of_userinfo {c : Char} (stays : Percent.Stays Percent.userinfo c) :
    Percent.Stays Percent.path c := by
  obtain ⟨small, kept⟩ := stays
  simp only [Percent.userinfo, Bool.or_eq_false_iff] at kept
  exact ⟨small, kept.1⟩

/-- Says that a character can stand in an authority: it is no blank and ends none. -/
structure InAuthority (c : Char) : Prop where
  inner : Inner c
  ends : c ∉ ['/', '?', '#', '\\']

instance (c : Char) : Decidable (InAuthority c) :=
  decidable_of_iff (Inner c ∧ c ∉ ['/', '?', '#', '\\'])
    ⟨fun both => ⟨both.1, both.2⟩, fun both => ⟨both.1, both.2⟩⟩

theorem inAuthority_of_userinfo {c : Char} (stays : Percent.Stays Percent.userinfo c) :
    InAuthority c where
  inner := inner_of_stays_path (stays_path_of_userinfo stays)
  ends member := by
    have all : ∀ c ∈ ['/', '?', '#', '\\'], ¬ Percent.Stays Percent.userinfo c :=
      List.all_iff_forall_prop.mp (by decide)
    exact all c member stays

theorem inAuthority_of_shape {host : String} (shape : Host.Shape host) :
    ∀ c ∈ host.toList, InAuthority c := by
  cases shape with
  | words _ _ isHost =>
    have all : ∀ c ∈ Host.wordChars, InAuthority c := List.all_iff_forall_prop.mp (by decide)
    rw [isHost]
    exact fun c member => all c (Host.mem_wordChars member)
  | name inName =>
    intro c member
    have all : Host.isReserved c = false ∧ Percent.controls c = false → InAuthority c :=
      of_ascii (fun c => Host.isReserved c = false ∧ Percent.controls c = false → InAuthority c)
        (by decide +kernel) (inName c member).ascii
    exact all ⟨(inName c member).clear, (inName c member).shown⟩

theorem inAuthority_of_isDigit {c : Char} (digit : c.isDigit = true) : InAuthority c := by
  obtain ⟨least, greatest⟩ := Char.isDigit_iff_toNat.mp digit
  have all : c.isDigit = true → InAuthority c :=
    of_ascii (fun c => c.isDigit = true → InAuthority c) (by decide +kernel)
      (Nat.lt_of_le_of_lt greatest (by decide))
  exact all digit

theorem inAuthority_of_mem_text {authority : Authority} (user : UserWritten authority)
    (shape : Host.Shape authority.host) : ∀ c ∈ authority.text.toList, InAuthority c := by
  have signs : InAuthority ':' ∧ InAuthority '@' := by decide
  intro c member
  rw [toList_text] at member
  rcases List.mem_append.mp member with inUser | inRest
  · rw [Authority.userText] at inUser
    split at inUser
    · cases inUser
    · rw [String.toList_append, String.toList_append] at inUser
      rcases List.mem_append.mp inUser with inUser | isSign
      · rcases List.mem_append.mp inUser with inName | inPassword
        · exact inAuthority_of_userinfo (user c (List.mem_append_left _ inName))
        · split at inPassword
          · cases inPassword
          · rw [String.toList_append] at inPassword
            rcases List.mem_append.mp inPassword with isColon | inPassword
            · exact List.mem_singleton.mp isColon ▸ signs.1
            · exact inAuthority_of_userinfo (user c (List.mem_append_right _ inPassword))
      · exact List.mem_singleton.mp isSign ▸ signs.2
  · rcases List.mem_append.mp inRest with inHost | inPort
    · exact inAuthority_of_shape shape c inHost
    · cases port : authority.port with
      | none =>
        rw [port] at inPort
        cases inPort
      | some number =>
        rw [port] at inPort
        rcases List.mem_cons.mp inPort with rfl | isDigit
        · exact signs.1
        · exact inAuthority_of_isDigit (isDigit_of_mem_decimal isDigit)

/-- What stands before the path of a URI. -/
def frontText (uri : Uri) : List Char :=
  match uri.authority with
  | some authority => '/' :: '/' :: authority.text.toList
  | none => []

/-- The path of a URI, with the dot before it. -/
def pathChars (uri : Uri) : List Char :=
  (if uri.dotted then ['/', '.'] else []) ++ uri.pathText.toList

/-- **The text of a URI after its scheme**: a colon, the authority, the path and the tail. -/
theorem toList_restText (uri : Uri) :
    uri.restText.toList = ':' :: (uri.frontText ++ (uri.pathChars ++ uri.tailText)) := by
  unfold restText authorityText frontText pathChars tailText
  cases uri.authority <;> cases uri.dotted <;> simp

theorem inner_of_mem_tailText {uri : Uri} (query : QueryWritten uri.query)
    (fragment : FragmentWritten uri.fragment) : ∀ c ∈ uri.tailText, Inner c := by
  intro c member
  rcases List.mem_append.mp member with inQuery | inFragment
  · rcases of_mem_marked query inQuery with rfl | stays
    · decide
    · exact inner_of_stays_query stays
  · cases isText : uri.fragment with
    | none =>
      rw [isText] at inFragment
      cases inFragment
    | some text =>
      rw [isText, marked, String.toList_append] at inFragment
      rcases List.mem_append.mp inFragment with isMark | inText
      · obtain rfl := List.mem_singleton.mp isMark
        decide
      · have stays := fragment text isText c inText
        have all : Percent.fragment c = false → Inner c :=
          of_ascii (fun c => Percent.fragment c = false → Inner c) (by decide +kernel) stays.1
        exact all stays.2

theorem toList_segmentsText (item : String) (rest : List String) :
    (Path.segmentsText (item :: rest)).toList
      = '/' :: (item.toList ++ (Path.segmentsText rest).toList) := by
  simp [Path.segmentsText]

theorem of_mem_segmentsText {items : List String} {c : Char}
    (member : c ∈ (Path.segmentsText items).toList) : c = '/' ∨ ∃ item ∈ items, c ∈ item.toList := by
  induction items with
  | nil => cases member
  | cons item rest ih =>
    rw [toList_segmentsText] at member
    rcases List.mem_cons.mp member with isSlash | inRest
    · exact Or.inl isSlash
    · rcases List.mem_append.mp inRest with inItem | later
      · exact Or.inr ⟨item, List.mem_cons_self, inItem⟩
      · rcases ih later with isSlash | ⟨other, isOther, inOther⟩
        · exact Or.inl isSlash
        · exact Or.inr ⟨other, List.mem_cons_of_mem _ isOther, inOther⟩

section Parts

variable {uri : Uri} (made : Made uri)
include made

theorem Made.user {authority : Authority} (given : uri.authority = some authority) :
    UserWritten authority :=
  (made.bears kept_fit).user authority given

theorem Made.shape {authority : Authority} (given : uri.authority = some authority) :
    Host.Shape authority.host := by
  rcases (made.bears kept_fit).host authority given with empty | ⟨text, read⟩
  · rw [empty]
    exact .name fun _ absent => by cases absent
  · exact (shape_of_readHost read).1

theorem inner_of_mem_frontText : ∀ c ∈ uri.frontText, Inner c := by
  intro c member
  unfold frontText at member
  split at member
  · rename_i authority given
    rcases List.mem_cons.mp member with rfl | member
    · decide
    · rcases List.mem_cons.mp member with rfl | member
      · decide
      · exact (inAuthority_of_mem_text (made.user given) (made.shape given) c member).inner
  · cases member

theorem unbroken_pathChars : ∀ c ∈ uri.pathChars, isBreak c = false := by
  intro c member
  rcases List.mem_append.mp member with isDot | inPath
  · split at isDot
    · have all : ∀ c ∈ ['/', '.'], isBreak c = false := List.all_iff_forall_prop.mp (by decide)
      exact all c isDot
    · cases isDot
  · unfold pathText at inPath
    cases path : uri.path with
    | segments items =>
      rw [path] at inPath
      rcases of_mem_segmentsText inPath with rfl | ⟨item, isItem, inItem⟩
      · decide
      · have stays := ((made.bears kept_fit).path items path item isItem c inItem).stays
        exact isBreak_eq_false_of_inner (inner_of_stays_path stays)
    | literal text =>
      rw [path] at inPath
      have stays := (made.bears kept_fit).literal text path c inPath
      have all : Percent.controls c = false → isBreak c = false :=
        of_ascii (fun c => Percent.controls c = false → isBreak c = false) (by decide +kernel)
          stays.1
      exact all stays.2

/-- **A URI is read again after another scheme**, up to blanks at the end of its text. -/
theorem parse_restText {target : String} (valid : isScheme target = true) :
    parse (target ++ uri.restText) = readAbsolute none (lower target)
      (dropEndWhile isEdge (uri.frontText ++ (uri.pathChars ++ uri.tailText))) := by
  have bears := made.bears kept_fit
  refine parse_scheme valid (by rw [String.toList_append, toList_restText]) fun c member => ?_
  rcases List.mem_append.mp member with inFront | inRest
  · exact isBreak_eq_false_of_inner (inner_of_mem_frontText made c inFront)
  · rcases List.mem_append.mp inRest with inPath | inTail
    · exact unbroken_pathChars made c inPath
    · exact isBreak_eq_false_of_inner (inner_of_mem_tailText bears.query bears.fragment c inTail)

/-- Without blanks in its path a URI is read again as it stands. -/
theorem parse_restText_of_inner {target : String} (valid : isScheme target = true)
    (inner : ∀ c ∈ uri.pathChars, Inner c) : parse (target ++ uri.restText)
      = readAbsolute none (lower target) (uri.frontText ++ (uri.pathChars ++ uri.tailText)) := by
  have bears := made.bears kept_fit
  have solid : ∀ c ∈ (uri.frontText ++ (uri.pathChars ++ uri.tailText)).reverse,
      isEdge c = false := by
    intro c member
    refine isEdge_eq_false_of_inner ?_
    rcases List.mem_append.mp (List.mem_reverse.mp member) with inFront | inRest
    · exact inner_of_mem_frontText made c inFront
    · rcases List.mem_append.mp inRest with inPath | inTail
      · exact inner c inPath
      · exact inner_of_mem_tailText bears.query bears.fragment c inTail
  rw [parse_restText made valid, dropEndWhile, dropWhile_of_forall solid, List.reverse_reverse]

end Parts

end Switchboard.Uri
