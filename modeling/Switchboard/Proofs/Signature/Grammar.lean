import Mathlib.Data.List.Forall2
import Switchboard.Proofs.Text.Cuts
import Switchboard.Signature
/-!
The grammar of signatures.

A signature is cut into tokens at its slashes, after one slash is dropped at its start and then one
at its end. First come tokens that stand for a segment each, then any number of `?`, and then perhaps
an empty token and a star, with which the signature has an open end.

* `Signature.Token.Written` says how a token for a segment is written, `Signature.Outline.Spells`
  what a whole signature says. Neither reads anything.
* `Signature.places_of_read`: the places that are read are those of the segments of the base and of
  the tokens.
* `Signature.read_iff_spelled`: what is read is exactly what the grammar spells, and this is what is
  known of it then.
-/

namespace Switchboard.Signature

/-! ### Tokens -/

/-- A token that stands for one segment. -/
inductive Token where
  | constant (text : String)
  /-- A star, which captures a segment under its position. -/
  | star
  /-- A capture under a name. -/
  | named (name : String)
  deriving DecidableEq, Repr

namespace Token

/-- Says that a text holds none of the characters with a meaning in tokens. -/
def Unmarked (text : String) : Prop := ∀ c ∈ text.toList, isMark c = false

/-- **How a token is written.** Blanks around a name do not count. -/
inductive Written : Token → String → Prop where
  | constant {text : String} (given : text ≠ "") (unmarked : Unmarked text) :
      Written (.constant text) text
  | star : Written .star "*"
  | named {inner : String} (given : Text.trim inner ≠ "")
      (unmarked : Unmarked (Text.trim inner)) :
      Written (.named (Text.trim inner)) ("\x7b" ++ inner ++ "\x7d")

/-- Says whether a token is a constant. -/
def isConstant : Token → Bool
  | .constant _ => true
  | _ => false

/-- What stands for a token among the segments of a signature: its text in small letters without
percent codes, or a star for what captures. -/
def segment : Token → String
  | .constant text => foldSegment text
  | _ => "*"

/-- The name under which a token captures the segment at a position. -/
def name? (index : Nat) : Token → Option String
  | .constant _ => none
  | .star => some (Text.decimal index)
  | .named name => some name

/-- The place that is made of a token at a position. -/
def place (index : Nat) : Token → Place
  | .constant text => .constant (foldSegment text)
  | .star => .capture (Place.positional index)
  | .named name => .capture name

@[simp] theorem text_place (token : Token) (index : Nat) :
    (token.place index).text = token.segment := by
  cases token <;> rfl

@[simp] theorem name?_place (token : Token) (index : Nat) :
    (token.place index).name? = token.name? index := by
  cases token <;> rfl

@[simp] theorem isConstant_place (token : Token) (index : Nat) :
    (token.place index).isConstant = token.isConstant := by
  cases token <;> rfl

theorem unmarked_iff {text : String} : Unmarked text ↔ text.toList.any isMark = false := by
  simp [Unmarked]

/-- What stands between braces is found there. -/
theorem braced?_eq_some_iff {text inner : String} :
    braced? text = some inner ↔ text = "\x7b" ++ inner ++ "\x7d" := by
  constructor
  · intro found
    unfold braced? at found
    split at found
    · rename_i rest begins
      split at found
      · rename_i ends
        obtain ⟨front, rfl⟩ := List.getLast?_eq_some_iff.mp ends
        rw [List.dropLast_concat] at found
        rw [← String.toList_inj, begins, ← Option.some.inj found]
        simp
      · cases found
    · cases found
  · rintro rfl
    simp [braced?]

theorem isMark_brace : isMark '\x7b' = true := by decide

/-- A text with a mark in it is not the text of a constant. -/
theorem not_unmarked_of_mem {text : String} {c : Char} (member : c ∈ text.toList)
    (mark : isMark c = true) : ¬ Unmarked text := by
  intro unmarked
  rw [unmarked c member] at mark
  cases mark

/-- A token for a segment is neither empty nor a question mark. -/
theorem Written.ne {token : Token} {text : String} (written : Written token text) :
    text ≠ "" ∧ text ≠ "?" := by
  cases written with
  | constant given unmarked =>
    refine ⟨given, ?_⟩
    rintro rfl
    exact not_unmarked_of_mem (c := '?') (by decide) (by decide) unmarked
  | star => decide
  | named given unmarked =>
    constructor <;> intro same <;> simpa using congrArg String.toList same

/-- **A token is read as it is written**, unless it is empty. -/
theorem readToken_eq_ok_iff {index : Nat} {text : String} (given : text ≠ "") {place : Place} :
    readToken index text = .ok place ↔
      ∃ token, Written token text ∧ place = token.place index := by
  constructor
  · intro read
    unfold readToken at read
    by_cases isStar : text = "*"
    · rw [if_pos isStar] at read
      exact ⟨.star, isStar ▸ .star, (Except.ok.inj read).symm⟩
    rw [if_neg isStar] at read
    cases braces : braced? text with
    | some inner =>
      simp only [braces] at read
      split at read
      · cases read
      · rename_i good
        obtain ⟨named, unmarked⟩ := not_or.mp good
        refine ⟨.named (Text.trim inner), ?_, (Except.ok.inj read).symm⟩
        rw [braced?_eq_some_iff.mp braces]
        exact .named named (unmarked_iff.mpr (Bool.eq_false_iff.mpr unmarked))
    | none =>
      simp only [braces] at read
      split at read
      · cases read
      · rename_i unmarked
        have plain : Unmarked text := unmarked_iff.mpr (Bool.eq_false_iff.mpr unmarked)
        exact ⟨.constant text, .constant given plain, (Except.ok.inj read).symm⟩
  · rintro ⟨token, written, rfl⟩
    unfold readToken
    cases written with
    | constant given unmarked =>
      have notStar : text ≠ "*" := by
        rintro rfl
        exact not_unmarked_of_mem (c := '*') (by decide) (by decide) unmarked
      have notBraced : braced? text = none := by
        rw [Option.eq_none_iff_forall_ne_some]
        intro inner braces
        rw [braced?_eq_some_iff.mp braces] at unmarked
        exact not_unmarked_of_mem (c := '\x7b') (by simp) isMark_brace unmarked
      simp [notStar, notBraced, unmarked_iff.mp unmarked, place]
    | star => rfl
    | @named inner named unmarked =>
      have notStar : "\x7b" ++ inner ++ "\x7d" ≠ "*" := by
        intro same
        simpa using congrArg String.toList same
      simp [notStar, braced?_eq_some_iff.mpr rfl, named, unmarked_iff.mp unmarked, place]

end Token

/-! ### Outlines -/

/-- What a signature says: the tokens that stand for a segment each, the number of `?` after them,
and whether the end is open. -/
structure Outline where
  fixed : List Token
  optional : Nat
  isOpen : Bool
  deriving DecidableEq, Repr

namespace Outline

/-- The tokens of an end. -/
def ending (isOpen : Bool) : List String := if isOpen then ["", "*"] else []

/-- **How the tokens of a signature follow each other.** -/
def Written (outline : Outline) (tokens : List String) : Prop :=
  ∃ front, List.Forall₂ Token.Written outline.fixed front ∧
    tokens = front ++ List.replicate outline.optional "?" ++ ending outline.isOpen

/-- Says that `body` is a text without one slash at its start and then one at its end. -/
def Stripped (text body : List Char) : Prop :=
  ∃ start final, text = start ++ body ++ final ∧
    (start = ['/'] ∨ start = [] ∧ text.head? ≠ some '/') ∧
    (final = ['/'] ∨ final = [] ∧ body.getLast? ≠ some '/')

/-- Says that tokens without slashes make up a text with slashes between them. An empty text has no
tokens. -/
def Tokenized (body : List Char) (tokens : List String) : Prop :=
  (∀ token ∈ tokens, '/' ∉ token.toList) ∧
    Text.joinWith '/' (tokens.map String.toList) = body ∧ (body = [] ↔ tokens = [])

/-- **What the text of a signature says.** -/
def Spells (outline : Outline) (written : String) : Prop :=
  ∃ body tokens, Stripped written.toList body ∧ Tokenized body tokens ∧ outline.Written tokens

/-- How many segments may follow. -/
def extent (outline : Outline) : Extent :=
  if outline.isOpen then .unbounded else .atMost outline.optional

/-- The tokens of a signature below a base, of which the segments count as constants. -/
def below (outline : Outline) (base : List String) : List Token :=
  (base.filter (· ≠ "")).map Token.constant ++ outline.fixed

/-- The places of tokens from a position on. -/
def placesFrom (index : Nat) (tokens : List Token) : List Place :=
  (tokens.zipIdx index).map fun (token, index) => token.place index

theorem placesFrom_cons (index : Nat) (token : Token) (rest : List Token) :
    placesFrom index (token :: rest) = token.place index :: placesFrom (index + 1) rest := rfl

theorem placesFrom_append (index : Nat) (front rest : List Token) :
    placesFrom index (front ++ rest)
      = placesFrom index front ++ placesFrom (index + front.length) rest := by
  simp [placesFrom, List.zipIdx_append]

theorem countP_placesFrom (index : Nat) (tokens : List Token) :
    (placesFrom index tokens).countP Place.isConstant = tokens.countP Token.isConstant := by
  induction tokens generalizing index with
  | nil => rfl
  | cons token rest ih =>
    rw [placesFrom_cons, List.countP_cons, List.countP_cons, ih, Token.isConstant_place]

theorem getElem?_placesFrom (tokens : List Token) (index : Nat) :
    (placesFrom 0 tokens)[index]? = tokens[index]?.map (Token.place index) := by
  simp only [placesFrom, List.getElem?_map, List.getElem?_zipIdx, Nat.zero_add, Option.map_map]
  rfl

end Outline

/-! ### Slashes -/

open Outline

/-- **What is left without outer slashes.** -/
theorem dropSlashes_eq_iff {text body : List Char} :
    dropSlashes text = body ↔ Stripped text body := by
  have ends : ∀ rest : List Char, (if rest.getLast? = some '/' then rest.dropLast else rest) = body ↔
      ∃ final, rest = body ++ final ∧ (final = ['/'] ∨ final = [] ∧ body.getLast? ≠ some '/') := by
    intro rest
    split
    · rename_i slash
      constructor
      · rintro rfl
        obtain ⟨front, rfl⟩ := List.getLast?_eq_some_iff.mp slash
        exact ⟨['/'], by rw [List.dropLast_concat], Or.inl rfl⟩
      · rintro ⟨final, rfl, rfl | ⟨rfl, other⟩⟩
        · simp
        · simp_all
    · rename_i other
      constructor
      · rintro rfl
        exact ⟨[], (List.append_nil _).symm, Or.inr ⟨rfl, other⟩⟩
      · rintro ⟨final, rfl, rfl | ⟨rfl, -⟩⟩
        · simp at other
        · simp
  unfold dropSlashes
  rw [ends]
  constructor
  · rintro ⟨final, cut, last⟩
    split at cut
    · exact ⟨['/'], final, by rw [cut]; rfl, Or.inl rfl, last⟩
    · rename_i notSlash
      refine ⟨[], final, cut, Or.inr ⟨rfl, ?_⟩, last⟩
      intro slash
      obtain ⟨rest, rfl⟩ := List.head?_eq_some_iff.mp slash
      exact notSlash rest rfl
  · rintro ⟨start, final, rfl, rfl | ⟨rfl, first⟩, last⟩
    · exact ⟨final, rfl, last⟩
    · refine ⟨final, ?_, last⟩
      split
      · rename_i begins
        exact absurd (congrArg List.head? begins) first
      · rfl

/-- **The tokens of a signature.** -/
theorem tokens_eq_iff {written : String} {found : List String} : tokens written = found ↔
    ∃ body, Stripped written.toList body ∧ Tokenized body found := by
  have cut : ∀ body : List Char, body ≠ [] →
      ((Text.splitOn '/' body).map String.ofList = found ↔ Tokenized body found) := by
    intro body given
    constructor
    · rintro rfl
      refine ⟨?_, ?_, ?_⟩
      · simpa using fun _ => Text.not_mem_of_mem_splitOn
      · simp [Text.join_splitOn]
      · simp [given, Text.splitOn_ne_nil]
    · rintro ⟨free, joined, empty⟩
      have same : Text.splitOn '/' body = found.map String.toList := by
        rw [Text.splitOn_eq_iff]
        exact ⟨by simpa [given] using empty, by simpa using free, joined⟩
      simp [same]
  have strip : Stripped written.toList (dropSlashes written.toList) := dropSlashes_eq_iff.mp rfl
  unfold tokens
  split
  · rename_i empty
    constructor
    · rintro rfl
      exact ⟨[], empty ▸ strip, by simp [Tokenized, Text.joinWith]⟩
    · rintro ⟨body, isBody, tokenized⟩
      rw [← dropSlashes_eq_iff, empty] at isBody
      exact (tokenized.2.2.mp isBody.symm).symm
  · rename_i given
    constructor
    · intro same
      exact ⟨_, strip, (cut _ given).mp same⟩
    · rintro ⟨body, isBody, tokenized⟩
      rw [← dropSlashes_eq_iff] at isBody
      subst isBody
      exact (cut _ given).mpr tokenized

/-! ### Reading -/

/-- Tokens for segments are read one by one. -/
theorem readTokens_append {fixed : List Token} {front : List String}
    (written : List.Forall₂ Token.Written fixed front) (places : List Place) (rest : List String) :
    readTokens places 0 (front ++ rest)
      = readTokens (places ++ placesFrom places.length fixed) 0 rest := by
  induction written generalizing places with
  | nil => simp [placesFrom]
  | @cons token text _ others isWritten _ ih =>
    have read : readToken places.length text = .ok (token.place places.length) :=
      (Token.readToken_eq_ok_iff isWritten.ne.1).mpr ⟨token, isWritten, rfl⟩
    rw [List.cons_append, readTokens, if_neg isWritten.ne.1, if_neg isWritten.ne.2]
    simp [read, ih, placesFrom_cons]

/-- Every `?` lets one more segment follow. -/
theorem readTokens_replicate (places : List Place) (optional count : Nat) (rest : List String) :
    readTokens places optional (List.replicate count "?" ++ rest)
      = readTokens places (optional + count) rest := by
  induction count generalizing optional with
  | zero => rfl
  | succ count ih =>
    rw [List.replicate_succ, List.cons_append, readTokens, if_neg (by decide), if_pos rfl, ih]
    congr 1
    omega

theorem readTokens_ending (places : List Place) (optional : Nat) (isOpen : Bool) :
    readTokens places optional (ending isOpen)
      = .ok (places, if isOpen then .unbounded else .atMost optional) := by
  cases isOpen <;> rfl

/-- What an outline says is read of the tokens by which it is written. -/
theorem readTokens_of_written {outline : Outline} {tokens : List String}
    (written : outline.Written tokens) (places : List Place) : readTokens places 0 tokens
      = .ok (places ++ placesFrom places.length outline.fixed, outline.extent) := by
  obtain ⟨front, isFront, rfl⟩ := written
  rw [List.append_assoc, readTokens_append isFront, readTokens_replicate, readTokens_ending,
    Nat.zero_add]
  rfl

/-- Whatever is read is written by the grammar. After a `?` no token for a segment is read. -/
theorem exists_written_of_readTokens {places : List Place} {optional : Nat} {tokens : List String}
    {result : List Place × Extent} (read : readTokens places optional tokens = .ok result) :
    ∃ outline : Outline, outline.Written tokens ∧ (0 < optional → outline.fixed = []) := by
  induction tokens generalizing places optional with
  | nil => exact ⟨⟨[], 0, false⟩, ⟨[], .nil, rfl⟩, fun _ => rfl⟩
  | cons token rest ih =>
    rw [readTokens] at read
    by_cases isEmpty : token = ""
    · rw [if_pos isEmpty] at read
      by_cases isOpen : rest = ["*"]
      · exact ⟨⟨[], 0, true⟩, ⟨[], .nil, by rw [isEmpty, isOpen]; rfl⟩, fun _ => rfl⟩
      · rw [if_neg isOpen] at read
        cases read
    rw [if_neg isEmpty] at read
    by_cases isOptional : token = "?"
    · rw [if_pos isOptional] at read
      obtain ⟨⟨fixed, count, isOpen⟩, ⟨front, isFront, same⟩, alone⟩ := ih read
      obtain rfl : fixed = [] := alone (Nat.succ_pos _)
      cases isFront
      refine ⟨⟨[], count + 1, isOpen⟩, ⟨[], .nil, ?_⟩, fun _ => rfl⟩
      rw [isOptional, same, List.replicate_succ]
      rfl
    rw [if_neg isOptional] at read
    by_cases late : 0 < optional
    · rw [if_pos late] at read
      cases read
    rw [if_neg late] at read
    split at read
    · rename_i place readFirst
      obtain ⟨first, isFirst, -⟩ := (Token.readToken_eq_ok_iff isEmpty).mp readFirst
      obtain ⟨outline, ⟨front, isFront, rfl⟩, -⟩ := ih read
      exact ⟨{ outline with fixed := first :: outline.fixed },
        ⟨token :: front, .cons isFirst isFront, rfl⟩, fun after => absurd after late⟩
    · cases read

variable {base : List String} {written : String} {signature : Signature} {outline : Outline}

theorem basePlaces_eq (base : List String) :
    basePlaces base = placesFrom 0 ((base.filter (· ≠ "")).map Token.constant) := by
  apply List.ext_getElem?
  intro index
  rw [getElem?_placesFrom]
  simp [basePlaces, Token.place, Function.comp_def]

/-- What an outline says is read of every text that spells it. -/
theorem read_of_spells (base : List String) (spells : outline.Spells written) :
    read base written
      = .ok { written, places := placesFrom 0 (outline.below base), extent := outline.extent } := by
  obtain ⟨body, tokens, stripped, tokenized, isWritten⟩ := spells
  have found : Signature.tokens written = tokens := tokens_eq_iff.mpr ⟨body, stripped, tokenized⟩
  have places : basePlaces base ++ placesFrom (basePlaces base).length outline.fixed
      = placesFrom 0 (outline.below base) := by
    rw [below, placesFrom_append, ← basePlaces_eq]
    simp [basePlaces]
  rw [read, found, readTokens_of_written isWritten, places]

/-- What is read of a text is spelled by it. -/
theorem exists_spells_of_read (isRead : read base written = .ok signature) :
    ∃ outline : Outline, outline.Spells written := by
  unfold read at isRead
  split at isRead
  · rename_i places extent readAll
    obtain ⟨outline, isWritten, -⟩ := exists_written_of_readTokens readAll
    obtain ⟨body, stripped, tokenized⟩ := tokens_eq_iff.mp (rfl : tokens written = tokens written)
    exact ⟨outline, body, _, stripped, tokenized, isWritten⟩
  · cases isRead

/-- **The places of a signature** are those of the segments of the base and of its tokens. -/
theorem places_of_read (isRead : read base written = .ok signature)
    (spells : outline.Spells written) :
    signature.places = placesFrom 0 (outline.below base) ∧ signature.extent = outline.extent := by
  rw [read_of_spells base spells] at isRead
  rw [← Except.ok.inj isRead]
  exact ⟨rfl, rfl⟩

theorem fixedLength_of_places (places : signature.places = placesFrom 0 (outline.below base)) :
    signature.fixedLength = (outline.below base).length := by
  rw [fixedLength, places]
  simp [placesFrom]

/-! ### What is read -/

/-- The captures of a signature are those of its tokens, with their positions. -/
theorem mem_captureNames_iff (places : signature.places = placesFrom 0 (outline.below base))
    {index : Nat} {name : String} : (index, name) ∈ signature.captureNames ↔
      ∃ token, (outline.below base)[index]? = some token ∧ token.name? index = some name := by
  have stands : ∀ place, signature.places[index]? = some place ↔
      ∃ token, (outline.below base)[index]? = some token ∧ token.place index = place := by
    intro place
    rw [places, getElem?_placesFrom, Option.map_eq_some_iff]
  constructor
  · intro member
    obtain ⟨⟨place, position⟩, isPlace, isName⟩ := List.mem_filterMap.mp member
    obtain ⟨other, named, same⟩ := Option.map_eq_some_iff.mp isName
    obtain ⟨rfl, rfl⟩ := Prod.mk.inj same
    obtain ⟨token, isToken, rfl⟩ := (stands place).mp (List.mem_zipIdx_iff_getElem?.mp isPlace)
    exact ⟨token, isToken, by simpa using named⟩
  · rintro ⟨token, isToken, named⟩
    have isPlace := (stands _).mpr ⟨token, isToken, rfl⟩
    refine List.mem_filterMap.mpr ⟨(_, index), List.mem_zipIdx_iff_getElem?.mpr isPlace, ?_⟩
    show Option.map _ (token.place index).name? = _
    rw [Token.name?_place, named]
    rfl

/-- Captures stand in the order of their positions, each at one of its own. -/
theorem pairwise_captureNames (signature : Signature) :
    signature.captureNames.Pairwise fun one other => one.1 < other.1 := by
  unfold captureNames
  rw [List.pairwise_filterMap]
  have positions : (signature.places.zipIdx.map Prod.snd).Pairwise (· < ·) := by
    rw [List.zipIdx_map_snd]
    exact List.pairwise_lt_range'
  refine (List.pairwise_map.mp positions).imp ?_
  rintro ⟨one, first⟩ ⟨other, second⟩ before capture isCapture capture' isCapture'
  obtain ⟨_, -, rfl⟩ := Option.map_eq_some_iff.mp isCapture
  obtain ⟨_, -, rfl⟩ := Option.map_eq_some_iff.mp isCapture'
  exact before

/-- **What is known of a signature that is read** below a base and says what an outline does. -/
structure Outline.Describes (outline : Outline) (base : List String) (signature : Signature) :
    Prop where
  /-- There is a segment for each one of the base that is not empty and for each token, in order. -/
  segments : signature.places.map Place.text = (outline.below base).map Token.segment
  /-- The captures are those of the tokens, at their positions. -/
  captures : ∀ index name, (index, name) ∈ signature.captureNames ↔
    ∃ token, (outline.below base)[index]? = some token ∧ token.name? index = some name
  increasing : (signature.captureNames.map Prod.fst).Pairwise (· < ·)
  inRange : ∀ capture ∈ signature.captureNames, capture.1 < signature.fixedLength
  /-- The segments of the base count as constants. -/
  constants : signature.constantCount
    = (base.filter (· ≠ "")).length + outline.fixed.countP Token.isConstant
  extent : signature.extent = outline.extent

theorem describes_of_read (isRead : read base written = .ok signature)
    (spells : outline.Spells written) : outline.Describes base signature := by
  obtain ⟨places, extent⟩ := places_of_read isRead spells
  have texts : signature.places.map Place.text = (outline.below base).map Token.segment := by
    apply List.ext_getElem?
    intro index
    rw [places, List.getElem?_map, getElem?_placesFrom]
    simp [Function.comp_def]
  refine ⟨texts, fun index name => mem_captureNames_iff places, ?_, ?_, ?_, extent⟩
  · exact List.pairwise_map.mpr signature.pairwise_captureNames
  · rintro ⟨index, name⟩ member
    obtain ⟨token, isToken, -⟩ := (mem_captureNames_iff places).mp member
    have reaches := (List.getElem?_eq_some_iff.mp isToken).1
    have length := congrArg List.length texts
    simp only [List.length_map] at length
    rw [fixedLength, length]
    exact reaches
  · have ofBase : ((base.filter (· ≠ "")).map Token.constant).countP Token.isConstant
        = (base.filter (· ≠ "")).length := by
      rw [List.countP_map, List.countP_eq_length]
      intro segment _
      rfl
    rw [constantCount, places, countP_placesFrom, below, List.countP_append, ofBase]

/-- **A signature is read exactly if it is spelled by the grammar**, below every base, and then it is
what it says. -/
theorem read_iff_spelled (base : List String) (written : String) :
    ((∃ signature, read base written = .ok signature) ↔
      ∃ outline : Outline, outline.Spells written) ∧
    ∀ signature, read base written = .ok signature →
      ∀ outline : Outline, outline.Spells written → outline.Describes base signature := by
  refine ⟨⟨?_, ?_⟩, ?_⟩
  · rintro ⟨signature, isRead⟩
    exact exists_spells_of_read isRead
  · rintro ⟨outline, spells⟩
    exact ⟨_, read_of_spells base spells⟩
  · intro signature isRead outline spells
    exact describes_of_read isRead spells

/-! ### A desk -/

/-- A signature with something of everything. -/
def desk : Outline :=
  { fixed := [.constant "Users", .named "id", .star], optional := 1, isOpen := true }

def deskText : String := "/Users/\x7b id \x7d/*/?//*"

def deskBase : List String := ["api", ""]

theorem desk_spells : desk.Spells deskText := by
  have trimmed : Text.trim " id " = "id" := by decide
  have named : Token.Written (.named "id") "\x7b id \x7d" :=
    trimmed ▸ @Token.Written.named " id " (by decide) (Token.unmarked_iff.mpr (by decide))
  refine ⟨"Users/\x7b id \x7d/*/?//*".toList, ["Users", "\x7b id \x7d", "*", "?", "", "*"],
    ⟨['/'], [], by decide, Or.inl rfl, by decide⟩, ⟨by decide, by decide, by decide⟩,
    ["Users", "\x7b id \x7d", "*"], ?_, rfl⟩
  exact .cons (.constant (by decide) (Token.unmarked_iff.mpr (by decide)))
    (.cons named (.cons .star .nil))

/-- The text of the desk is read, and what is read is what it says. -/
theorem desk_described : ∃ signature, read deskBase deskText = .ok signature ∧
    desk.Spells deskText ∧ desk.Describes deskBase signature := by
  obtain ⟨exactly, describes⟩ := read_iff_spelled deskBase deskText
  obtain ⟨signature, isRead⟩ := exactly.mpr ⟨desk, desk_spells⟩
  exact ⟨signature, isRead, desk_spells, describes signature isRead desk desk_spells⟩

end Switchboard.Signature
