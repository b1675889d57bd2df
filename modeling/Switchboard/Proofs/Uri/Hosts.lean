import Mathlib.Data.Bool.AllAny
import Switchboard.Proofs.Number.Decimal
import Switchboard.Proofs.Uri.Addresses
import Switchboard.Proofs.Uri.Made
/-!
Hosts that are read again.

The host of a URI is an address in brackets or a name of characters that every scheme takes as they
are. So outside the schemes of the web a host in small letters is read as it is. The schemes of the
web decode a name and take it for an address if it ends in a number, and these are the only ways in
which they can change a host.

* `Host.Shape` and `Host.OfWeb` say what hosts look like, and those of the web.
* `Uri.shape_of_readHost`: the host of a URI looks like this.
* `Host.parseOther_of_shape` and `Host.parseWeb_lower_iff`: when it is read as it is.
* `Uri.withHost_lower`: what becomes of a host that another URI is given.
-/

namespace Switchboard

namespace Host

open Text

/-! ### Small letters -/

theorem toLower_eq_iff {sign : Char} (keeps : sign.toLower = sign)
    (noLetter : (capitals.all fun c => c.toLower != sign) = true) (c : Char) :
    c.toLower = sign ↔ c = sign := by
  refine ⟨Uri.eq_of_toLower_sign noLetter, ?_⟩
  rintro rfl
  exact keeps

theorem toLower_point_iff (c : Char) : c.toLower = '.' ↔ c = '.' :=
  toLower_eq_iff (by decide) (by decide) c

theorem splitOn_map_toLower (text : List Char) :
    splitOn '.' (text.map Char.toLower) = (splitOn '.' text).map (List.map Char.toLower) := by
  induction text with
  | nil => rfl
  | cons c rest ih =>
    rw [List.map_cons, splitOn, splitOn, ih]
    by_cases isPoint : c = '.'
    · rw [if_pos (by simpa using (toLower_point_iff c).mpr isPoint), if_pos (by simpa using isPoint)]
      rfl
    · rw [if_neg (by simpa using fun same => isPoint ((toLower_point_iff c).mp same)),
        if_neg (by simpa using isPoint)]
      cases splitOn '.' rest <;> rfl

theorem digitsValue?_map_toLower (base : Nat) (text : List Char) :
    digitsValue? base (text.map Char.toLower) = digitsValue? base text := by
  have same : ∀ c : Char, hexValue? c.toLower = hexValue? c := of_toLower (by decide)
  rw [digitsValue?, List.foldlM_map]
  simp only [same]
  rfl

theorem addressNumber?_of_ne {first : Char} (notZero : first ≠ '0') (rest : List Char) :
    addressNumber? (first :: rest) = digitsValue? 10 (first :: rest) := by
  unfold addressNumber?
  split
  · rename_i same
    cases same
  · rename_i same
    exact absurd (List.cons.inj same).1 notZero
  · rename_i same
    exact absurd (List.cons.inj same).1 notZero
  · rename_i same
    exact absurd (List.cons.inj same).1 notZero
  · rfl

theorem addressNumber?_zero (second : Char) (rest : List Char) :
    addressNumber? ('0' :: second :: rest) = if second = 'x' ∨ second = 'X' then digitsValue? 16 rest
      else digitsValue? 8 (second :: rest) := by
  split
  · rename_i isMark
    rcases isMark with rfl | rfl <;> rfl
  · rename_i noMark
    rw [not_or] at noMark
    rw [addressNumber?]
    · exact noMark.1
    · exact noMark.2

theorem addressNumber?_map_toLower (text : List Char) :
    addressNumber? (text.map Char.toLower) = addressNumber? text := by
  cases text with
  | nil => rfl
  | cons first rest =>
    have isZero : first.toLower = '0' ↔ first = '0' :=
      toLower_eq_iff (by decide) (by decide) first
    by_cases zero : first = '0'
    · subst zero
      cases rest with
      | nil => rfl
      | cons second more =>
        have isMark : (second.toLower = 'x' ∨ second.toLower = 'X') ↔ second = 'x' ∨ second = 'X' :=
          decide_eq_decide.mp (of_toLower (f := fun c => decide (c = 'x' ∨ c = 'X')) (by decide) _)
        show addressNumber? ('0' :: second.toLower :: more.map Char.toLower) = _
        rw [addressNumber?_zero, addressNumber?_zero, ← List.map_cons, digitsValue?_map_toLower,
          digitsValue?_map_toLower]
        simp only [isMark]
    · rw [List.map_cons, addressNumber?_of_ne (fun same => zero (isZero.mp same)),
        addressNumber?_of_ne zero, ← List.map_cons, digitsValue?_map_toLower]

/-- The last label of those that are given in reverse order; an empty one before it is left out. -/
def lastLabel : List (List Char) → List Char
  | [] :: label :: _ => label
  | [[]] => []
  | label :: _ => label
  | [] => []

theorem lastLabel_map (change : Char → Char) (labels : List (List Char)) :
    lastLabel (labels.map (List.map change)) = (lastLabel labels).map change := by
  match labels with
  | [] => rfl
  | [[]] => rfl
  | [_ :: _] => rfl
  | [] :: _ :: _ => rfl
  | (_ :: _) :: _ :: _ => rfl

theorem endsInNumber_eq (name : List Char) : endsInNumber name
    = let last := lastLabel (splitOn '.' name).reverse
      (!last.isEmpty && last.all fun c => (digitsValue? 10 [c]).isSome)
        || (addressNumber? last).isSome := by
  unfold endsInNumber lastLabel
  rfl

/-- **Whether a name ends in a number** does not depend on the case of letters. -/
theorem endsInNumber_map_toLower (name : List Char) :
    endsInNumber (name.map Char.toLower) = endsInNumber name := by
  have digit := fun c : Char => digitsValue?_map_toLower 10 [c]
  simp only [List.map_cons, List.map_nil] at digit
  rw [endsInNumber_eq, endsInNumber_eq, splitOn_map_toLower, ← List.map_reverse, lastLabel_map]
  simp only [addressNumber?_map_toLower, List.all_map, List.isEmpty_map, Function.comp_def, digit]

/-! ### What a host looks like -/

/-- Says that a character can stand in a name of any scheme. -/
structure InName (c : Char) : Prop where
  ascii : c.toNat < 0x80
  clear : isReserved c = false
  shown : Percent.controls c = false

theorem inName_of_named {c : Char} (named : Label.Named c) : InName c := by
  have both : Label.isForbidden c = false → isReserved c = false ∧ Percent.controls c = false :=
    of_ascii (fun c => Label.isForbidden c = false →
      isReserved c = false ∧ Percent.controls c = false) (by decide +kernel) named.ascii
  exact ⟨named.ascii, (both named.allowed).1, (both named.allowed).2⟩

/-- **What a host looks like.** -/
inductive Shape (host : String) : Prop where
  | words {words : List Nat} : AreWords words → words.length = 8 → host = eightWordsText words →
      Shape host
  | name : (∀ c ∈ host.toList, InName c) → Shape host

/-- The characters of an address of four bytes. -/
def byteChars : List Char := ".0123456789".toList

theorem mem_byteChars {value : Nat} {c : Char} (member : c ∈ (addressText value).toList) :
    c ∈ byteChars := by
  rw [toList_addressText] at member
  rcases of_mem_joinWith member with rfl | ⟨piece, isPiece, inPiece⟩
  · decide
  · obtain ⟨byte, -, rfl⟩ := List.mem_map.mp isPiece
    obtain ⟨d, small, rfl⟩ := exists_of_mem_toDigits (by decide) inPiece
    have all : ∀ m ∈ List.range 10, Nat.digitChar m ∈ byteChars := by decide
    exact all d (List.mem_range.mpr small)

theorem of_mem_digitsOf {words : List Nat} {c : Char} (member : c ∈ digitsOf words) :
    c = ':' ∨ ∃ d, d < 16 ∧ c = Nat.digitChar d := by
  rcases of_mem_joinWith member with isColon | ⟨piece, isPiece, inPiece⟩
  · exact Or.inl isColon
  · obtain ⟨word, -, rfl⟩ := List.mem_map.mp isPiece
    exact Or.inr (exists_of_mem_toDigits (by decide) inPiece)

theorem of_mem_innerText {words : List Nat} {c : Char} (member : c ∈ innerText words) :
    c = ':' ∨ ∃ d, d < 16 ∧ c = Nat.digitChar d := by
  rw [innerText] at member
  dsimp only at member
  split at member
  · exact of_mem_digitsOf member
  · rcases List.mem_append.mp member with front | back
    · exact of_mem_digitsOf front
    · simp only [List.mem_cons] at back
      obtain rfl | rfl | back := back
      · exact Or.inl rfl
      · exact Or.inl rfl
      · exact of_mem_digitsOf back

/-- The characters of an address of eight words. -/
def wordChars : List Char := "[]:0123456789abcdef".toList

theorem mem_wordChars {words : List Nat} {c : Char} (member : c ∈ (eightWordsText words).toList) :
    c ∈ wordChars := by
  rw [toList_eightWordsText] at member
  rcases List.mem_cons.mp member with rfl | member
  · decide
  · rcases List.mem_append.mp member with inner | isLast
    · rcases of_mem_innerText inner with rfl | ⟨d, small, rfl⟩
      · decide
      · have all : ∀ m ∈ List.range 16, Nat.digitChar m ∈ wordChars := by decide
        exact all d (List.mem_range.mpr small)
    · obtain rfl := List.mem_singleton.mp isLast
      decide

theorem lower_eq_self {text : String} (small : ∀ c ∈ text.toList, c.toLower = c) :
    lower text = text := by
  have same : text.toList.map Char.toLower = text.toList :=
    (List.map_congr_left small).trans (List.map_id' _)
  rw [lower, same, String.ofList_toList]

/-- An address of eight words has no capitals. -/
theorem lower_eightWordsText (words : List Nat) :
    lower (eightWordsText words) = eightWordsText words := by
  have all : ∀ c ∈ wordChars, c.toLower = c := List.all_iff_forall_prop.mp (by decide)
  exact lower_eq_self fun c member => all c (mem_wordChars member)

/-- An address of four bytes has no capitals. -/
theorem lower_addressText (value : Nat) : lower (addressText value) = addressText value := by
  have all : ∀ c ∈ byteChars, c.toLower = c := List.all_iff_forall_prop.mp (by decide)
  exact lower_eq_self fun c member => all c (mem_byteChars member)

theorem shape_of_bracketed {text : List Char} {host : String} (read : bracketed text = .ok host) :
    Shape host := by
  obtain ⟨words, areWords, whole, isHost⟩ := of_bracketed read
  exact .words areWords whole isHost

/-- Says that a host is one of the web: it has no bytes to be decoded, and if it ends in a number, it
is an address in normal form. -/
structure OfWeb (host : String) : Prop where
  decoded : '%' ∉ host.toList
  normal : endsInNumber host.toList = true →
    ∃ value, value < 4294967296 ∧ lower host = addressText value

theorem shape_of_addressText (value : Nat) : Shape (addressText value) := by
  have all : ∀ c ∈ byteChars, c.toNat < 0x80 ∧ isReserved c = false ∧
      Percent.controls c = false := List.all_iff_forall_prop.mp (by decide)
  refine .name fun c member => ?_
  obtain ⟨ascii, clear, shown⟩ := all c (mem_byteChars member)
  exact ⟨ascii, clear, shown⟩

/-- What begins with a bracket does not end in a number. -/
theorem endsInNumber_eightWordsText (words : List Nat) :
    endsInNumber (eightWordsText words).toList = false := by
  have free : '.' ∉ (eightWordsText words).toList := fun member =>
    absurd (mem_wordChars member) (by decide)
  have bracket : digitsValue? 10 ['['] = none := by decide
  have noValue : ∀ text, digitsValue? 10 ('[' :: text) = none := fun _ => rfl
  rw [endsInNumber_eq, splitOn_of_not_mem free, toList_eightWordsText]
  show ((!List.isEmpty ('[' :: _) && List.all ('[' :: _) _) || (addressNumber? ('[' :: _)).isSome)
    = false
  rw [addressNumber?_of_ne (by decide), noValue]
  simp [bracket]

theorem ofWeb_eightWordsText (words : List Nat) : OfWeb (eightWordsText words) where
  decoded member := absurd (mem_wordChars member) (by decide)
  normal ends := by
    rw [endsInNumber_eightWordsText] at ends
    cases ends

theorem ofWeb_addressText {value : Nat} (small : value < 4294967296) :
    OfWeb (addressText value) where
  decoded member := absurd (mem_byteChars member) (by decide)
  normal _ := ⟨value, small, lower_addressText value⟩

/-- **What the schemes of the web read**: an address in normal form or a name. -/
inductive ReadsWeb (host : String) : Prop where
  | words {words : List Nat} : AreWords words → words.length = 8 → host = eightWordsText words →
      ReadsWeb host
  | bytes {value : Nat} : value < 4294967296 → host = addressText value → ReadsWeb host
  | name : host ≠ "" → (∀ c ∈ host.toList, Label.Named c) → endsInNumber host.toList = false →
      ReadsWeb host

theorem readsWeb_of_parseWeb {text : List Char} {host : String}
    (read : parseWeb text = .ok host) : ReadsWeb host := by
  unfold parseWeb at read
  split at read
  · obtain ⟨words, areWords, whole, isHost⟩ := of_bracketed read
    exact .words areWords whole isHost
  · split at read
    · cases read
    · cases read
    · rename_i name given isName
      split at read
      · obtain ⟨value, small, isHost⟩ := of_fourBytes read
        exact .bytes small isHost
      · rename_i noNumber
        obtain rfl := Except.ok.inj read
        refine .name (fun empty => ?_) ?_ ?_
        · have chars := congrArg String.toList empty
          rw [String.toList_ofList] at chars
          exact given chars
        · rw [String.toList_ofList]
          exact fun c member => Domain.of_mem_text? isName c member
        · rw [String.toList_ofList]
          exact eq_false_of_ne_true noNumber

/-- **Every host of the web** looks like one. -/
theorem of_parseWeb {text : List Char} {host : String} (read : parseWeb text = .ok host) :
    Shape host ∧ OfWeb host := by
  cases readsWeb_of_parseWeb read with
  | @words words areWords whole isHost =>
    rw [isHost]
    exact ⟨.words areWords whole rfl, ofWeb_eightWordsText words⟩
  | @bytes value small isHost =>
    rw [isHost]
    exact ⟨shape_of_addressText value, ofWeb_addressText small⟩
  | name given named noNumber =>
    exact ⟨.name fun c member => inName_of_named (named c member),
      fun member => absurd (named _ member).allowed (by decide),
      fun ends => absurd (noNumber.symm.trans ends) Bool.false_ne_true⟩

/-- A host that is read is not empty. -/
theorem ne_empty_of_parseWeb {text : List Char} {host : String}
    (read : parseWeb text = .ok host) : host ≠ "" := by
  intro empty
  cases readsWeb_of_parseWeb read with
  | @words words _ _ isHost =>
    have chars := congrArg String.toList (isHost.symm.trans empty)
    rw [toList_eightWordsText] at chars
    cases chars
  | @bytes value _ isHost =>
    have count := congrArg List.length (splitOn_addressText value)
    rw [isHost.symm.trans empty] at count
    exact absurd (show 1 = 4 from count) (by decide)
  | name given _ _ => exact given empty

/-- **The host of a scheme** that is not of the web looks like one, too. -/
theorem shape_of_parseOther {text : List Char} {host : String} (read : parseOther text = .ok host) :
    Shape host := by
  unfold parseOther at read
  split at read
  · exact shape_of_bracketed read
  · split at read
    · cases read
    · rename_i clear
      obtain rfl := Except.ok.inj read
      refine .name fun c member => ?_
      rw [String.toList_ofList] at member
      rcases Percent.of_mem_write member with ⟨inText, stays⟩ | isCode
      · refine ⟨stays.1, ?_, stays.2⟩
        simp only [List.any_eq_true, not_exists, not_and, Bool.not_eq_true] at clear
        exact clear c inText
      · have all : ∀ d ∈ Percent.codeChars, d.toNat < 0x80 ∧ isReserved d = false ∧
            Percent.controls d = false := List.all_iff_forall_prop.mp (by decide)
        exact ⟨(all c isCode).1, (all c isCode).2.1, (all c isCode).2.2⟩

/-! ### Reading a host in small letters -/

section Again

variable {host found : String}

theorem InName.toLower {c : Char} (inName : InName c) : InName c.toLower := by
  have all : isReserved c = false ∧ Percent.controls c = false →
      isReserved c.toLower = false ∧ Percent.controls c.toLower = false :=
    of_ascii (fun c => isReserved c = false ∧ Percent.controls c = false →
      isReserved c.toLower = false ∧ Percent.controls c.toLower = false) (by decide +kernel)
      inName.ascii
  obtain ⟨clear, shown⟩ := all ⟨inName.clear, inName.shown⟩
  exact ⟨(flat_toLower inName.ascii).1, clear, shown⟩

theorem inName_lower (inName : ∀ c ∈ host.toList, InName c) :
    ∀ c ∈ (lower host).toList, InName c := by
  rw [toList_lower]
  exact List.forall_mem_map.mpr fun c member => (inName c member).toLower

/-- A host looks the same in small letters. -/
theorem shape_lower (shape : Shape host) : Shape (lower host) := by
  cases shape with
  | words areWords whole isHost =>
    refine .words areWords whole ?_
    rw [isHost, lower_eightWordsText]
  | name inName => exact .name (inName_lower inName)

theorem head?_ne_of_inName {text : List Char} (inName : ∀ c ∈ text, InName c) :
    text.head? ≠ some '[' := by
  intro isHead
  exact absurd (inName _ (List.mem_of_mem_head? isHead)).clear (by decide)

/-- **Outside the web** a host is read as it is. -/
theorem parseOther_of_shape (shape : Shape host) : parseOther host.toList = .ok host := by
  cases shape with
  | words areWords whole isHost =>
    rw [isHost, toList_eightWordsText]
    exact bracketed_eightWordsText areWords whole
  | name inName =>
    have noBracket := head?_ne_of_inName inName
    have clear : host.toList.any isReserved = false :=
      List.any_eq_false.mpr fun c member => by simp [(inName c member).clear]
    unfold Host.parseOther
    split
    · rename_i same
      rw [same] at noBracket
      exact absurd rfl noBracket
    · rw [clear, if_neg Bool.false_ne_true,
        Percent.write_eq_self fun c member => ⟨(inName c member).ascii, (inName c member).shown⟩,
        String.ofList_toList]

theorem mem_lower_percent (text : String) : '%' ∈ (lower text).toList ↔ '%' ∈ text.toList := by
  have isSign : ∀ c : Char, c.toLower = '%' ↔ c = '%' := toLower_eq_iff (by decide) (by decide)
  rw [toList_lower, List.mem_map]
  constructor
  · rintro ⟨c, member, same⟩
    rwa [(isSign c).mp same] at member
  · exact fun member => ⟨'%', member, rfl⟩

/-- Whether a host is one of the web does not depend on the case of letters. -/
theorem OfWeb.congr {one other : String} (ofWeb : OfWeb one) (same : lower one = lower other) :
    OfWeb other where
  decoded member := by
    rw [← mem_lower_percent, ← same, mem_lower_percent] at member
    exact ofWeb.decoded member
  normal ends := by
    rw [← endsInNumber_map_toLower, ← toList_lower, ← same, toList_lower,
      endsInNumber_map_toLower] at ends
    obtain ⟨value, small, isAddress⟩ := ofWeb.normal ends
    exact ⟨value, small, same ▸ isAddress⟩

/-- A host in small letters that looks like those of the web is read as it is. -/
theorem eq_lower_of_parseWeb (shape : Shape host) (ofWeb : OfWeb host)
    (read : parseWeb (lower host).toList = .ok found) : found = lower host := by
  cases shape with
  | words areWords whole isHost =>
    rw [isHost, lower_eightWordsText, toList_eightWordsText] at read
    obtain rfl := Except.ok.inj ((bracketed_eightWordsText areWords whole).symm.trans read)
    rw [isHost, lower_eightWordsText]
  | name inName =>
    -- Nothing is decoded and small letters stay, so only an address can be another host.
    have flat : ∀ c ∈ (lower host).toList, Flat c := by
      rw [toList_lower]
      exact List.forall_mem_map.mpr fun c member => flat_toLower (inName c member).ascii
    have free : '%' ∉ (lower host).toList := fun member =>
      ofWeb.decoded ((mem_lower_percent host).mp member)
    have noBracket := head?_ne_of_inName (inName_lower inName)
    unfold parseWeb at read
    split at read
    · rename_i same
      rw [same] at noBracket
      exact absurd rfl noBracket
    · rw [Percent.decodeBytes_encodeChars free] at read
      split at read
      · cases read
      · cases read
      · rename_i name given isName
        obtain rfl := Domain.text?_of_flat flat isName
        split at read
        · rename_i ends
          rw [toList_lower, endsInNumber_map_toLower] at ends
          obtain ⟨value, small, isAddress⟩ := ofWeb.normal ends
          rw [isAddress, fourBytes_addressText small] at read
          rw [← Except.ok.inj read, isAddress]
        · rw [← Except.ok.inj read, String.ofList_toList]

/-- **Which hosts are read as they are** by the schemes of the web: those that look like theirs. -/
theorem parseWeb_lower_iff (shape : Shape host)
    (read : parseWeb (lower host).toList = .ok found) : lower found = lower host ↔ OfWeb host := by
  refine ⟨(of_parseWeb read).2.congr, fun ofWeb => ?_⟩
  rw [eq_lower_of_parseWeb shape ofWeb read, lower_lower]

/-- What becomes of a name in ASCII. -/
def readName : Option (List Char) → Except UriFault String
  | none => .error .domainName
  | some [] => .error .emptyHost
  | some name => if endsInNumber name then fourBytes name else .ok (String.ofList name)

/-- A name without anything to decode is read as it stands. -/
theorem parseWeb_of_inName {text : List Char} (inName : ∀ c ∈ text, InName c) (free : '%' ∉ text) :
    parseWeb text = readName (Domain.text? (Utf8.encodeChars text)) := by
  have noBracket := head?_ne_of_inName inName
  rw [← Percent.decodeBytes_encodeChars free]
  unfold parseWeb
  split
  · exact absurd rfl noBracket
  · rfl

/-- A host without anything to decode is read as it is in small letters. -/
theorem parseWeb_toList_lower (shape : Shape host) (decoded : '%' ∉ host.toList) :
    parseWeb (lower host).toList = parseWeb host.toList := by
  cases shape with
  | words _ _ isHost => rw [isHost, lower_eightWordsText]
  | name inName =>
    have free : '%' ∉ (lower host).toList := fun member =>
      decoded ((mem_lower_percent host).mp member)
    rw [parseWeb_of_inName (inName_lower inName) free, parseWeb_of_inName inName decoded, toList_lower,
      Domain.text?_map_toLower fun c member => (inName c member).ascii]

/-- **Which hosts come back**, up to case, when the schemes of the web read them. -/
theorem parseWeb_iff (shape : Shape host) (read : parseWeb host.toList = .ok found) :
    lower found = lower host ↔ OfWeb host := by
  refine ⟨(of_parseWeb read).2.congr, fun ofWeb => ?_⟩
  rw [← parseWeb_toList_lower shape ofWeb.decoded] at read
  exact (parseWeb_lower_iff shape read).mpr ofWeb

/-- No blanks are in a host. -/
theorem trim_of_shape (shape : Shape host) : trim host = host := by
  have solid : ∀ c ∈ host.toList, isBlank c = false := by
    cases shape with
    | words areWords whole isHost =>
      have all : ∀ c ∈ wordChars, isBlank c = false :=
        List.all_iff_forall_prop.mp (by decide)
      rw [isHost]
      exact fun c member => all c (mem_wordChars member)
    | name inName =>
      intro c member
      have all : isReserved c = false ∧ Percent.controls c = false → isBlank c = false :=
        of_ascii (fun c => isReserved c = false ∧ Percent.controls c = false → isBlank c = false)
          (by decide +kernel) (inName c member).ascii
      exact all ⟨(inName c member).clear, (inName c member).shown⟩
  rw [trim, trimChars_of_forall solid, String.ofList_toList]

end Again

end Host

/-! ### Setting a host -/

namespace Uri

open Text

variable {uri place : Uri} {scheme host : String}

theorem shape_of_readHost {text : List Char} (read : readHost scheme text = .ok host) :
    Host.Shape host ∧ (isWebScheme scheme = true → Host.OfWeb host) := by
  unfold readHost at read
  split at read
  · obtain ⟨shape, ofWeb⟩ := Host.of_parseWeb read
    exact ⟨shape, fun _ => ofWeb⟩
  · rename_i noWeb
    exact ⟨Host.shape_of_parseOther read, fun isWeb => absurd isWeb noWeb⟩

/-- The whole of a host is read when it is set. -/
theorem hostName_of_shape (shape : Host.Shape host) :
    hostName host = host.toList ∧ host.toList.head? ≠ some ':' := by
  cases shape with
  | @words words areWords whole isHost =>
    have isText := Host.toList_eightWordsText words
    rw [← isHost] at isText
    have isLast : host.toList.getLast? = some ']' := by
      rw [isText, ← List.cons_append, List.getLast?_concat]
    have isFirst : host.toList.head? = some '[' := by
      rw [isText]
      rfl
    exact ⟨if_pos (by simp [isLast, isFirst]), by simp [isFirst]⟩
  | name inName =>
    have noColon : ∀ c ∈ host.toList, c ≠ ':' := fun c member isColon =>
      absurd (isColon ▸ (inName c member).clear) (by decide)
    refine ⟨?_, fun isHead => noColon ':' (List.mem_of_mem_head? isHead) rfl⟩
    rw [hostName, if_neg (by simp [Host.head?_ne_of_inName inName])]
    exact List.takeWhile_eq_self_iff.mpr fun c member => by simpa using noColon c member

/-- **A host that is set in small letters** is taken as it is, unless the scheme is one of the web
and the host does not look like theirs. -/
theorem withHost_lower (hierarchy : uri.isLiteral = false) (shape : Host.Shape host)
    (given : host ≠ "") (set : uri.withHost (lower host) = .ok place) :
    ∃ found, place = uri.onHost found ∧ found ≠ "" ∧
      (lower found = lower host ↔ (isWebScheme uri.scheme = true → Host.OfWeb host)) := by
  have shapeLower := Host.shape_lower shape
  have givenLower : lower host ≠ "" := by
    intro empty
    have chars := congrArg String.toList empty
    rw [toList_lower] at chars
    exact given (String.toList_inj.mp (List.map_eq_nil_iff.mp chars))
  obtain ⟨isName, noColon⟩ := hostName_of_shape shapeLower
  rw [withHost_eq hierarchy givenLower noColon, isName] at set
  cases read : readHost uri.scheme (lower host).toList with
  | error fault =>
    rw [read] at set
    cases set
  | ok found =>
    rw [read] at set
    refine ⟨found, (Except.ok.inj set).symm, ?_⟩
    unfold readHost at read
    split at read
    · rename_i isWeb
      have reads := Host.parseWeb_lower_iff shape read
      exact ⟨Host.ne_empty_of_parseWeb read,
        reads.trans ⟨fun ofWeb _ => ofWeb, fun all => all isWeb⟩⟩
    · rename_i noWeb
      obtain rfl := Except.ok.inj ((Host.parseOther_of_shape shapeLower).symm.trans read)
      exact ⟨givenLower, fun _ isWeb => absurd isWeb noWeb, fun _ => lower_lower host⟩

end Uri

end Switchboard
