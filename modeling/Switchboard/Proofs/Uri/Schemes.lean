import Switchboard.Endpoint.SchemeSwap
import Switchboard.Proofs.Uri.Direct
/-!
The scheme of a text, and URIs with another scheme.

The scheme of a URI is read from what stands before the first colon of its text, so a URI with
another scheme put in has that scheme, whatever its rest is.

* `Text.lower_lower`: small letters are not changed again.
* `Uri.schemeOf?_of_rescheme`: the scheme of a URI that another scheme was put into.
* `Uri.rescheme_home`: every scheme has a URI that any other scheme can be put into.
-/

namespace Switchboard

namespace Text

/-! ### Case -/

/-- The ASCII capitals. -/
def capitals : List Char := "ABCDEFGHIJKLMNOPQRSTUVWXYZ".toList

/-- Only a capital has another small letter. -/
theorem toLower_eq_self_or_mem (c : Char) : c.toLower = c ∨ c ∈ capitals := by
  have all : ∀ n ∈ List.range 91, 65 ≤ n → Char.ofNat n ∈ capitals := by decide
  unfold Char.toLower
  split
  · rename_i within
    have least : 65 ≤ c.toNat := within.1
    have greatest : c.toNat ≤ 90 := within.2
    have member := all c.toNat (List.mem_range.mpr (by omega)) least
    rw [Char.ofNat_toNat] at member
    exact Or.inr member
  · exact Or.inl rfl

/-- What does not tell small letters from their capitals does not tell any characters from their
small letters. -/
theorem of_toLower {α : Type} [DecidableEq α] {f : Char → α}
    (all : (capitals.all fun c => decide (f c.toLower = f c)) = true) (c : Char) :
    f c.toLower = f c := by
  rcases toLower_eq_self_or_mem c with same | isCapital
  · rw [same]
  · exact of_decide_eq_true (List.all_eq_true.mp all c isCapital)

/-- **Small letters are not changed again.** -/
theorem lower_lower (text : String) : lower (lower text) = lower text := by
  have once : Char.toLower ∘ Char.toLower = Char.toLower :=
    funext (of_toLower (by decide))
  unfold lower
  rw [String.toList_ofList, List.map_map, once]

end Text

namespace Uri

open Text

/-! ### What stands before the first colon -/

/-- Says whether a text is a scheme. -/
def isScheme (text : String) : Bool :=
  text.toList.head?.any (fun c => c.isAlpha)
    && text.toList.all fun c => c.isAlphanum || c == '+' || c == '-' || c == '.'

/-- The scheme of a text that begins with `front` and a colon. -/
def schemeOf? (front : String) : Option String := (scheme? (cleaned (front ++ ":"))).map Prod.fst

/-- What begins with a text without colons and then a colon has that text as its scheme, if it is
one. -/
theorem scheme?_append {front : List Char} (free : ':' ∉ front) (rest : List Char) :
    scheme? (front ++ ':' :: rest) = if isScheme (String.ofList front) then
      some (lower (String.ofList front), rest.dropWhile isBreak) else none := by
  unfold scheme? isScheme
  rw [cutAt_append free]
  simp only [String.toList_ofList]

theorem dropWhile_append_stop {junk : Char → Bool} (front : List Char) {c : Char}
    (stops : junk c = false) (rest : List Char) :
    (front ++ c :: rest).dropWhile junk = front.dropWhile junk ++ c :: rest := by
  induction front with
  | nil => exact List.dropWhile_cons_of_neg (by simp [stops])
  | cons d others ih =>
    rw [List.cons_append, List.dropWhile_cons, List.dropWhile_cons]
    split
    · exact ih
    · rfl

theorem dropEndWhile_append_stop {junk : Char → Bool} (front : List Char) {c : Char}
    (stops : junk c = false) (rest : List Char) :
    dropEndWhile junk (front ++ c :: rest) = front ++ c :: dropEndWhile junk rest := by
  unfold dropEndWhile
  rw [List.reverse_append, List.reverse_cons, List.append_assoc, List.singleton_append,
    dropWhile_append_stop _ stops]
  simp

/-- Breaks before the first colon are dropped, all of them. -/
theorem dropBreaks_colon {before front : List Char} (freeBefore : ':' ∉ before)
    (free : ':' ∉ front) (rest : List Char) :
    ∃ after, dropBreaks before (front ++ ':' :: rest) = plain front ++ ':' :: after := by
  induction front generalizing before with
  | nil => exact ⟨dropBreaks (':' :: before) rest, by simp [dropBreaks, isBreak, plain]⟩
  | cons c others ih =>
    rw [List.mem_cons, not_or] at free
    rw [List.cons_append, dropBreaks]
    cases breaks : isBreak c with
    | false =>
      have freeAfter : ':' ∉ c :: before := by simp [free.1, freeBefore]
      obtain ⟨after, same⟩ := ih freeAfter free.2
      exact ⟨after, by simp [same, plain, breaks]⟩
    | true =>
      have noDrive : endsInDrive before = false := by
        unfold endsInDrive
        split
        · exact absurd List.mem_cons_self freeBefore
        · rfl
      obtain ⟨after, same⟩ := ih freeBefore free.2
      exact ⟨after, by simp [same, plain, breaks, noDrive]⟩

/-- **The scheme of a text** is read from what stands before its first colon. -/
theorem fst_scheme?_cleaned {text front : String} {rest : List Char}
    (isText : text.toList = front.toList ++ ':' :: rest) :
    (scheme? (cleaned text)).map Prod.fst = schemeOf? front := by
  have inFront : ∀ {text : String} {rest : List Char}, text.toList = front.toList ++ ':' :: rest →
      (scheme? (cleaned text)).map Prod.fst =
        let name := plain ((front.toList.dropWhile fun c => decide (c.toNat ≤ 0x20)).takeWhile
          (· != ':'))
        if isScheme (String.ofList name) then some (lower (String.ofList name)) else none := by
    intro text rest isText
    have noEdge : decide (':'.toNat ≤ 0x20) = false := by decide
    unfold cleaned
    rw [isText]
    dsimp only
    rw [dropWhile_append_stop _ noEdge, dropEndWhile_append_stop _ noEdge]
    generalize front.toList.dropWhile _ = kept
    obtain ⟨after, parts⟩ := exists_takeWhile_append ':' kept (dropEndWhile _ rest)
    have free : ':' ∉ kept.takeWhile (· != ':') :=
      fun member => absurd (List.mem_takeWhile_imp member) (by decide)
    obtain ⟨tail, dropped⟩ := dropBreaks_colon List.not_mem_nil free after
    have freePlain : ':' ∉ plain (kept.takeWhile (· != ':')) :=
      fun member => free (List.mem_filter.mp member).1
    rw [parts, dropped, scheme?_append freePlain]
    split <;> rfl
  have itself : (front ++ ":").toList = front.toList ++ [':'] := String.toList_append
  rw [schemeOf?, inFront isText, inFront itself]

/-! ### URIs with another scheme -/

theorem scheme_of_withAuthority {scheme : String} {text : List Char} {uri : Uri}
    (read : withAuthority scheme text = .ok uri) : uri.scheme = scheme := by
  rw [withAuthority_eq] at read
  cases authority : readAuthority scheme (plain (spanAuthority scheme text).1)
      (spanAuthority scheme text).2 with
  | error fault =>
    rw [authority] at read
    cases read
  | ok pair =>
    rw [authority] at read
    obtain rfl := Except.ok.inj read
    rfl

/-- A URI that is read has the scheme that it begins with. -/
theorem scheme_of_readAbsolute {scheme : String} {text : List Char} {uri : Uri}
    (read : readAbsolute none scheme text = .ok uri) : uri.scheme = scheme := by
  unfold readAbsolute at read
  split at read
  · rename_i isFile
    unfold readFile at read
    split at read
    · obtain ⟨_, _, _, -, rfl⟩ := exists_fileUri_of_fileWithHost read
      exact isFile.symm
    · cases read
      exact isFile.symm
    · cases read
      exact isFile.symm
  · split at read
    · exact scheme_of_withAuthority read
    · split at read
      · exact scheme_of_withAuthority read
      · cases read
        rfl

/-- A URI that another scheme was put into is read from its text. -/
theorem parse_of_rescheme {target : String} {uri next : Uri}
    (puts : Endpoint.rescheme target uri = some next) :
    parse (target ++ uri.restText) = .ok next := by
  unfold Endpoint.rescheme at puts
  cases read : parse (target ++ uri.restText) with
  | error fault =>
    rw [read] at puts
    cases puts
  | ok other =>
    rw [read] at puts
    cases puts
    rfl

/-- **A URI that another scheme was put into** has that scheme. -/
theorem schemeOf?_of_rescheme {target : String} {uri next : Uri}
    (puts : Endpoint.rescheme target uri = some next) : schemeOf? target = some next.scheme := by
  have isText : ∃ rest, (target ++ uri.restText).toList = target.toList ++ ':' :: rest := by
    refine ⟨(uri.authorityText ++ uri.pathText ++ marked "?" uri.query
      ++ marked "#" uri.fragment).toList, ?_⟩
    simp [restText]
  obtain ⟨rest, isText⟩ := isText
  have read := parse_of_rescheme puts
  rw [← fst_scheme?_cleaned isText]
  unfold parse parseWith at read
  dsimp only at read
  cases found : scheme? (cleaned (target ++ uri.restText)) with
  | none =>
    rw [found] at read
    cases read
  | some pair =>
    rw [found] at read
    rw [scheme_of_readAbsolute read]
    rfl

/-! ### A URI of every scheme -/

theorem isScheme_lower (text : String) : isScheme (lower text) = isScheme text := by
  have alpha : ∀ c : Char, c.toLower.isAlpha = c.isAlpha := of_toLower (by decide)
  have other : ∀ c : Char, (c.toLower.isAlphanum || c.toLower == '+' || c.toLower == '-'
      || c.toLower == '.') = (c.isAlphanum || c == '+' || c == '-' || c == '.') :=
    of_toLower (f := fun c => c.isAlphanum || c == '+' || c == '-' || c == '.') (by decide)
  unfold isScheme
  rw [toList_lower, List.head?_map, List.all_map]
  simp only [Option.any_map, Function.comp_def, alpha, other]

/-- What is read as the scheme of a text is one. -/
theorem isScheme_of_scheme? {text rest : List Char} {scheme : String}
    (found : scheme? text = some (scheme, rest)) : isScheme scheme = true := by
  unfold scheme? at found
  split at found
  · cases found
  · rename_i front _ _
    dsimp only at found
    split at found
    · rename_i sound
      have isFront : isScheme (String.ofList front) = true := by
        rw [isScheme, String.toList_ofList]
        exact sound
      obtain ⟨rfl, -⟩ := Prod.mk.inj (Option.some.inj found)
      rwa [isScheme_lower]
    · cases found

theorem isScheme_of_schemeOf? {front scheme : String} (found : schemeOf? front = some scheme) :
    isScheme scheme = true := by
  obtain ⟨⟨_, rest⟩, isScheme, rfl⟩ := Option.map_eq_some_iff.mp found
  exact isScheme_of_scheme? isScheme

/-- A URI of a scheme that any other scheme can be put into. -/
def home (scheme : String) : Uri :=
  { scheme, authority := some { username := "", password := "", host := "h", port := none }
    dotted := false, path := .segments [""], query := none, fragment := none }

section Foreign

variable {scheme : String} (noWeb : isWebScheme scheme = false)
include noWeb

theorem ne_file : scheme ≠ "file" := by
  rintro rfl
  exact absurd noWeb (by decide)

theorem defaultPort?_eq_none : defaultPort? scheme = none := by
  unfold isWebScheme at noWeb
  rw [decide_eq_false_iff_not] at noWeb
  simp only [List.mem_cons, List.not_mem_nil, or_false, not_or] at noWeb
  simp [defaultPort?, noWeb]

/-- Outside the web, what follows two slashes is read alike for all schemes. -/
theorem withAuthority_of_noWeb (text : List Char) : withAuthority scheme text
    = (withAuthority localScheme text).map fun uri => { uri with scheme } := by
  have isLocal : isWebScheme localScheme = false := by decide
  have authority : readAuthority scheme = readAuthority localScheme := by
    unfold readAuthority
    rw [noWeb, defaultPort?_eq_none noWeb, isLocal, defaultPort?_eq_none isLocal]
  have path : readPath scheme = readPath localScheme := by
    unfold readPath readPathFrom walkPath
    simp only [noWeb, isLocal, ne_file noWeb, ne_file isLocal]
  have tail : readTail scheme = readTail localScheme := by
    unfold readTail readQuery
    simp only [noWeb, isLocal]
  have span : spanAuthority scheme = spanAuthority localScheme := by
    unfold spanAuthority
    simp only [noWeb, isLocal]
  rw [withAuthority_eq, withAuthority_eq, authority, path, tail, span]
  cases readAuthority localScheme (plain (spanAuthority localScheme text).1)
      (spanAuthority localScheme text).2 with
  | error fault => rfl
  | ok pair => rfl

end Foreign

theorem readAbsolute_home (scheme : String) :
    readAbsolute none scheme "//h/".toList = .ok (home scheme) := by
  cases web : isWebScheme scheme with
  | true =>
    have known : scheme ∈ ["http", "https", "ws", "wss", "ftp", "file"] := by
      simpa [isWebScheme] using web
    simp only [List.mem_cons, List.not_mem_nil, or_false] at known
    rcases known with rfl | rfl | rfl | rfl | rfl | rfl <;> decide +kernel
  | false =>
    have localHome : withAuthority localScheme ['h', '/'] = .ok (home localScheme) := by
      decide +kernel
    unfold readAbsolute
    rw [if_neg (ne_file web), web, if_neg Bool.false_ne_true]
    show withAuthority scheme ['h', '/'] = _
    rw [withAuthority_of_noWeb web, localHome]
    rfl

/-- A scheme holds no blanks and no colon. -/
theorem inner_of_isScheme {text : String} (valid : isScheme text = true) {c : Char}
    (member : c ∈ text.toList) : Inner c ∧ c ≠ ':' := by
  have kept := List.all_eq_true.mp (Bool.and_eq_true_iff.mp valid).2 c member
  have blanks : ∀ n ∈ List.range 0x21, ((Char.ofNat n).isAlphanum || Char.ofNat n == '+'
      || Char.ofNat n == '-' || Char.ofNat n == '.') = false := by decide
  refine ⟨?_, ?_⟩
  · by_contra small
    have escaped := blanks c.toNat (List.mem_range.mpr (Nat.lt_succ_of_le (Nat.le_of_not_lt small)))
    rw [Char.ofNat_toNat] at escaped
    exact Bool.false_ne_true (escaped.symm.trans kept)
  · rintro rfl
    exact absurd kept (by decide)

/-- A text without blanks is read as it is. -/
theorem cleaned_eq_self {text : String} (inner : ∀ c ∈ text.toList, Inner c) :
    cleaned text = text.toList := by
  have noEdge : ∀ {text : List Char}, (∀ c ∈ text, Inner c) →
      text.dropWhile (fun c => decide (c.toNat ≤ 0x20)) = text := by
    intro text inner
    cases text with
    | nil => rfl
    | cons c rest =>
      have first := inner c List.mem_cons_self
      exact List.dropWhile_cons_of_neg (by simpa using Nat.not_le_of_lt first)
  have reversed : ∀ c ∈ text.toList.reverse, Inner c :=
    fun c member => inner c (List.mem_reverse.mp member)
  unfold cleaned dropEndWhile
  dsimp only
  rw [noEdge inner, noEdge reversed, List.reverse_reverse, dropBreaks_of_inner inner]

/-- **Every scheme has a URI that any other scheme can be put into.** -/
theorem rescheme_home {target : String} (valid : isScheme target = true) (scheme : String) :
    Endpoint.rescheme target (home scheme) = some (home (lower target)) := by
  have rest : (home scheme).restText.toList = ':' :: "//h/".toList := by
    have alike : (home scheme).restText = (home "a").restText := rfl
    rw [alike]
    decide +kernel
  have isText : (target ++ (home scheme).restText).toList
      = target.toList ++ ':' :: "//h/".toList := by
    rw [String.toList_append, rest]
  have innerRest : (':' :: "//h/".toList).all (fun c => decide (Inner c)) = true := by decide
  have inner : ∀ c ∈ target.toList ++ ':' :: "//h/".toList, Inner c := by
    intro c member
    rcases List.mem_append.mp member with inTarget | inRest
    · exact (inner_of_isScheme valid inTarget).1
    · exact of_decide_eq_true (List.all_eq_true.mp innerRest c inRest)
  have free : ':' ∉ target.toList := fun member => (inner_of_isScheme valid member).2 rfl
  have front : "//h/".toList.dropWhile isBreak = "//h/".toList := by decide
  unfold Endpoint.rescheme parse parseWith
  rw [cleaned_eq_self (isText ▸ inner), isText]
  dsimp only
  rw [scheme?_append free, String.ofList_toList, if_pos valid, front]
  dsimp only
  rw [readAbsolute_home]
  rfl

end Uri

end Switchboard
