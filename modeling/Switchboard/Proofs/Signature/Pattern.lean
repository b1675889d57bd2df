import Switchboard.Proofs.Signature.Grammar
import Switchboard.Proofs.Text.Escapes
import Switchboard.Proofs.Text.Lowercase
import Switchboard.Proofs.Text.Trim
/-!
Patterns that are read again.

The pattern of a signature is its text at the root: the segments of the base are constants like the
others, constants are in small letters and without percent codes, and a capture under its own
position is a star. If the constants hold no sign that has a meaning in a signature or a percent
code, this is read as the same signature. So it is the only pattern that signatures of this meaning
have.

* `Signature.foldSegment_foldSegment`: a constant that is read again stays as it is.
* `Signature.Token.written_normal`: how a place is written in a pattern.
* `Signature.read_pattern`: a pattern is read as the signature that it was written for.
* `Signature.pattern_normal_form`: and so it means the same.
-/

namespace Switchboard

namespace Signature

/-! ### Constants -/

/-- The signs with a meaning in signatures and in percent codes. -/
def signs : List Char := ['/', '%', '\x7b', '\x7d', '*', '?']

/-- Says that a text holds none of these signs. -/
def Plain (text : String) : Prop := ∀ c ∈ signs, c ∉ text.toList

instance (text : String) : Decidable (Plain text) :=
  List.decidableBAll (fun c => c ∉ text.toList) signs

variable {text : String}

theorem unmarked_of_plain (plain : Plain text) : Token.Unmarked text := by
  intro c member
  refine Bool.eq_false_iff.mpr fun isMark => ?_
  have sign : c ∈ signs := by
    simp only [Signature.isMark, decide_eq_true_eq] at isMark
    exact List.mem_cons_of_mem _ (List.mem_cons_of_mem _ isMark)
  exact plain c sign member

/-- Without a percent sign nothing is decoded. -/
theorem decodeSegment_eq_self (free : '%' ∉ text.toList) : decodeSegment text = text := by
  rw [decodeSegment, Text.Percent.decode, Text.Utf8.encode,
    Text.Percent.decodeBytes_encodeChars free, ← Text.Utf8.encode, Text.Utf8.decode?_encode]

theorem decodeSegment_ne_empty (given : text ≠ "") : decodeSegment text ≠ "" := by
  have bytes : Text.Utf8.encode text ≠ [] := by
    intro none
    have empty := Text.Utf8.decode?_encode text
    rw [none] at empty
    exact given (Except.ok.inj empty).symm
  unfold decodeSegment
  split
  · rename_i decoded isDecoded
    rintro rfl
    exact Text.Utf8.decode?_ne_empty (Text.Percent.decodeBytes_ne_nil bytes) isDecoded
  · exact given

/-- Small letters of a plain text are plain, since no sign comes of a letter. -/
theorem plain_ofString (plain : Plain text) : Plain (Text.Lowercase.ofString text) := by
  have noLetter : ∀ c ∈ signs, Text.Lowercase.IsSign c := List.all_iff_forall_prop.mp (by decide)
  intro c isSign member
  exact plain c isSign (Text.Lowercase.mem_of_mem_ofString (noLetter c isSign) member)

/-- **A constant that is read again** stays as it is. -/
theorem foldSegment_foldSegment (plain : Plain (decodeSegment text)) :
    foldSegment (foldSegment text) = foldSegment text := by
  have free : '%' ∉ (foldSegment text).toList := plain_ofString plain '%' (by decide)
  rw [foldSegment, decodeSegment_eq_self free, foldSegment, Text.Lowercase.ofString_ofString]

theorem foldSegment_ne_empty (given : text ≠ "") : foldSegment text ≠ "" :=
  Text.Lowercase.ofString_ne_empty (decodeSegment_ne_empty given)

/-! ### Tokens of a pattern -/

namespace Token

/-- What stands for a token at a position of a pattern. -/
def normal (index : Nat) : Token → Token
  | .constant text => .constant (foldSegment text)
  | .star => .star
  | .named name => if name = Place.positional index then .star else .named name

/-- Says that a token can stand in a pattern. -/
def Holds : Token → Prop
  | .constant text => text ≠ "" ∧ Plain (decodeSegment text)
  | .star => True
  | .named name => name ≠ "" ∧ Text.trim name = name ∧ Unmarked name ∧ '/' ∉ name.toList

variable {token : Token}

/-- **How a token is written in a pattern.** -/
theorem written_normal (holds : token.Holds) (index : Nat) :
    Written (token.normal index) ((token.place index).pattern index) ∧
      '/' ∉ ((token.place index).pattern index).toList := by
  cases token with
  | constant text =>
    obtain ⟨given, plain⟩ := holds
    have stays := plain_ofString plain
    exact ⟨.constant (foldSegment_ne_empty given) (unmarked_of_plain stays), stays '/' (by decide)⟩
  | star =>
    have itself : (place index .star).pattern index = "*" := if_pos rfl
    rw [itself]
    exact ⟨.star, by decide⟩
  | named name =>
    obtain ⟨given, trimmed, unmarked, single⟩ := holds
    by_cases own : name = Place.positional index
    · have isStar : (place index (.named name)).pattern index = "*" := if_pos own
      rw [isStar, normal, if_pos own]
      exact ⟨.star, by decide⟩
    · have braced : (place index (.named name)).pattern index = "\x7b" ++ name ++ "\x7d" :=
        if_neg own
      have written : Written (.named (Text.trim name)) ("\x7b" ++ name ++ "\x7d") :=
        .named (by rwa [trimmed]) (by rwa [trimmed])
      rw [trimmed] at written
      rw [braced, normal, if_neg own]
      exact ⟨written, by simpa using single⟩

/-- What stands for a token is read as its place. -/
theorem place_normal (holds : token.Holds) (index : Nat) :
    (token.normal index).place index = token.place index := by
  cases token with
  | constant text => exact congrArg Place.constant (foldSegment_foldSegment holds.2)
  | star => rfl
  | named name =>
    unfold normal
    dsimp only
    split
    · rename_i own
      rw [own]
      rfl
    · rfl

end Token

/-! ### Texts of patterns -/

open Outline

namespace Outline

/-- The tokens of a pattern from a position on. -/
def normalFrom (index : Nat) (tokens : List Token) : List Token :=
  (tokens.zipIdx index).map fun (token, index) => token.normal index

/-- The texts of places from a position on. -/
def textsFrom (index : Nat) (places : List Place) : List String :=
  (places.zipIdx index).map fun (place, index) => place.pattern index

/-- What the pattern of tokens with an extent says. -/
def ofPattern (tokens : List Token) (extent : Extent) : Outline :=
  match extent with
  | .atMost count => { fixed := normalFrom 0 tokens, optional := count, isOpen := false }
  | .unbounded => { fixed := normalFrom 0 tokens, optional := 0, isOpen := true }

/-- The tokens behind the places in the pattern of an outline. -/
def behind (outline : Outline) : List String :=
  List.replicate outline.optional "?" ++ ending outline.isOpen

@[simp] theorem fixed_ofPattern (tokens : List Token) (extent : Extent) :
    (ofPattern tokens extent).fixed = normalFrom 0 tokens := by
  cases extent <;> rfl

@[simp] theorem extent_ofPattern (tokens : List Token) (extent : Extent) :
    (ofPattern tokens extent).extent = extent := by
  cases extent <;> rfl

theorem written_textsFrom {tokens : List Token} (holds : ∀ token ∈ tokens, token.Holds)
    (index : Nat) : List.Forall₂ Token.Written (normalFrom index tokens)
      (textsFrom index (placesFrom index tokens)) ∧
    ∀ text ∈ textsFrom index (placesFrom index tokens), '/' ∉ text.toList := by
  induction tokens generalizing index with
  | nil => exact ⟨.nil, List.forall_mem_nil _⟩
  | cons token rest ih =>
    obtain ⟨first, others⟩ := List.forall_mem_cons.mp holds
    obtain ⟨written, single⟩ := Token.written_normal first index
    obtain ⟨writtenLater, singleLater⟩ := ih others (index + 1)
    exact ⟨.cons written writtenLater, List.forall_mem_cons.mpr ⟨single, singleLater⟩⟩

theorem placesFrom_normalFrom {tokens : List Token} (holds : ∀ token ∈ tokens, token.Holds)
    (index : Nat) : placesFrom index (normalFrom index tokens) = placesFrom index tokens := by
  induction tokens generalizing index with
  | nil => rfl
  | cons token rest ih =>
    obtain ⟨first, others⟩ := List.forall_mem_cons.mp holds
    show placesFrom index (token.normal index :: normalFrom (index + 1) rest) = _
    rw [placesFrom_cons, placesFrom_cons, Token.place_normal first, ih others]

/-- Tokens with a slash before each. -/
def slashed (tokens : List String) : String := String.join (tokens.map ("/" ++ ·))

theorem toList_slashed {tokens : List String} (given : tokens ≠ []) :
    (slashed tokens).toList = '/' :: Text.joinWith '/' (tokens.map String.toList) := by
  induction tokens with
  | nil => exact absurd rfl given
  | cons token rest ih =>
    rw [slashed, List.map_cons, String.join_cons]
    cases rest with
    | nil => simp [Text.joinWith]
    | cons next others =>
      show ("/" ++ token ++ slashed (next :: others)).toList = _
      rw [String.toList_append, ih (List.cons_ne_nil next others)]
      simp [Text.joinWith]

theorem ne_empty_of_written {fixed : List Token} {front : List String}
    (written : List.Forall₂ Token.Written fixed front) : ∀ text ∈ front, text ≠ "" := by
  induction written with
  | nil => exact List.forall_mem_nil _
  | cons first _ ih => exact List.forall_mem_cons.mpr ⟨first.ne.1, ih⟩

/-- The last token of a signature is not empty. -/
theorem Written.getLast?_ne {outline : Outline} {tokens : List String}
    (written : outline.Written tokens) : tokens.getLast? ≠ some "" := by
  obtain ⟨front, isFront, rfl⟩ := written
  cases outline.isOpen with
  | true => simp [ending]
  | false =>
    intro isLast
    rw [ending, if_neg Bool.false_ne_true, List.append_nil] at isLast
    rcases List.mem_append.mp (List.mem_of_getLast? isLast) with inFront | isOptional
    · exact ne_empty_of_written isFront "" inFront rfl
    · exact absurd (List.eq_of_mem_replicate isOptional) (by decide)

/-- **Tokens with a slash before each** are read as they are; without any there is the slash of the
root. -/
theorem spells_slashed {outline : Outline} {tokens : List String} (written : outline.Written tokens)
    (single : ∀ token ∈ tokens, '/' ∉ token.toList) :
    outline.Spells (if slashed tokens = "" then "/" else slashed tokens) := by
  by_cases none : tokens = []
  · subst none
    exact ⟨[], [], ⟨['/'], [], rfl, Or.inl rfl, Or.inr ⟨rfl, nofun⟩⟩,
      ⟨List.forall_mem_nil _, rfl, by simp⟩, written⟩
  · obtain ⟨front, last, rfl⟩ := (List.eq_nil_or_concat' tokens).resolve_left none
    have given : last.toList ≠ [] := by
      intro empty
      refine written.getLast?_ne ?_
      have isEmpty : last = "" := String.toList_inj.mp empty
      rw [List.getLast?_concat, isEmpty]
    have text := toList_slashed none
    have ends : (Text.joinWith '/' ((front ++ [last]).map String.toList)).getLast?
        = last.toList.getLast? := by
      rw [List.map_append, List.map_singleton]
      exact Text.getLast?_joinWith given
    have notEmpty : slashed (front ++ [last]) ≠ "" := by
      intro empty
      rw [empty] at text
      cases text
    rw [if_neg notEmpty]
    refine ⟨_, front ++ [last], ⟨['/'], [], ?_, Or.inl rfl, Or.inr ⟨rfl, ?_⟩⟩, ⟨single, rfl, ?_⟩,
      written⟩
    · rw [text, List.append_nil]
      rfl
    · rw [ends]
      intro slash
      exact single last (by simp) (List.mem_of_getLast? slash)
    · refine ⟨fun empty => ?_, fun nothing => absurd nothing none⟩
      rw [empty] at ends
      exact absurd (List.getLast?_eq_none_iff.mp ends.symm) given

end Outline

/-! ### Reading a pattern -/

variable {base : List String} {written : String} {signature : Signature} {outline : Outline}

theorem slashed_append (front rest : List String) :
    slashed (front ++ rest) = slashed front ++ slashed rest := by
  rw [slashed, List.map_append, String.join_append]
  rfl

theorem extentText_eq (tokens : List Token) (extent : Extent) :
    extentText extent = slashed (ofPattern tokens extent).behind := by
  cases extent with
  | atMost count =>
    show _ = slashed (List.replicate count "?" ++ [])
    rw [List.append_nil, slashed, List.map_replicate]
    rfl
  | unbounded => rfl

/-- **The text of a pattern** is that of its tokens, each after a slash. -/
theorem pattern_eq (signature : Signature) (tokens : List Token) :
    let texts := textsFrom 0 signature.places ++ (ofPattern tokens signature.extent).behind
    signature.pattern = if slashed texts = "" then "/" else slashed texts := by
  intro texts
  have places : slashed (textsFrom 0 signature.places)
      = String.join (signature.places.zipIdx.map fun (place, index) => "/" ++ place.pattern index) := by
    simp [slashed, textsFrom, Function.comp_def]
  rw [pattern, ← places, extentText_eq tokens, ← slashed_append]

theorem exists_written_of_mem {fixed : List Token} {front : List String}
    (written : List.Forall₂ Token.Written fixed front) :
    ∀ token ∈ fixed, ∃ text ∈ front, token.Written text := by
  induction written with
  | nil => exact List.forall_mem_nil _
  | cons first _ ih =>
    refine List.forall_mem_cons.mpr ⟨⟨_, List.mem_cons_self, first⟩, fun token member => ?_⟩
    obtain ⟨text, isText, written⟩ := ih token member
    exact ⟨text, List.mem_cons_of_mem _ isText, written⟩

/-- The tokens of a signature can stand in a pattern if its constants are plain. -/
theorem holds_of_spells (spells : outline.Spells written)
    (plain : ∀ text, Token.constant text ∈ outline.below base → Plain (decodeSegment text)) :
    ∀ token ∈ outline.below base, token.Holds := by
  obtain ⟨body, tokens, -, ⟨single, -, -⟩, front, isFront, rfl⟩ := spells
  intro token member
  rcases List.mem_append.mp member with ofBase | ofFixed
  · obtain ⟨text, isText, rfl⟩ := List.mem_map.mp ofBase
    exact ⟨by simpa using (List.mem_filter.mp isText).2, plain text member⟩
  · obtain ⟨text, inFront, isWritten⟩ := exists_written_of_mem isFront token ofFixed
    have noSlash : '/' ∉ text.toList := single text (by simp [inFront])
    cases isWritten with
    | constant given unmarked => exact ⟨given, plain text member⟩
    | star => trivial
    | @named inner given unmarked =>
      refine ⟨given, Text.trim_trim inner, unmarked, fun slash => noSlash ?_⟩
      simp [Text.mem_of_mem_trim slash]

/-- **A pattern is read** as the signature that it was written for, if the constants of this are
plain once they are decoded. -/
theorem read_pattern (isRead : read base written = .ok signature) (spells : outline.Spells written)
    (plain : ∀ text, Token.constant text ∈ outline.below base → Plain (decodeSegment text)) :
    read [] signature.pattern = .ok { signature with written := signature.pattern } := by
  have holds := holds_of_spells spells plain
  obtain ⟨places, -⟩ := places_of_read isRead spells
  let normal := ofPattern (outline.below base) signature.extent
  obtain ⟨isWritten, single⟩ := written_textsFrom holds 0
  rw [← places] at isWritten single
  have spelled : normal.Spells signature.pattern := by
    rw [pattern_eq signature (outline.below base)]
    refine spells_slashed ⟨_, by rwa [fixed_ofPattern], (List.append_assoc _ _ _).symm⟩ ?_
    refine List.forall_mem_append.mpr ⟨single, List.forall_mem_append.mpr ⟨?_, ?_⟩⟩
    · intro token member
      rw [List.eq_of_mem_replicate member]
      decide
    · cases normal.isOpen <;> decide
  have alone : normal.below [] = normalFrom 0 (outline.below base) :=
    fixed_ofPattern _ _
  rw [read_of_spells [] spelled, alone, placesFrom_normalFrom holds, ← places, extent_ofPattern]

/-- **Says that two signatures mean the same**, whatever their own texts. -/
structure Means (one other : Signature) : Prop where
  segments : one.places.map Place.text = other.places.map Place.text
  captures : one.captureNames = other.captureNames
  extent : one.extent = other.extent
  constants : one.constantCount = other.constantCount
  accepts : ∀ path, one.accepts path = other.accepts path
  arguments : ∀ path, one.capture? path = other.capture? path
  pattern : one.pattern = other.pattern

/-- The own text of a signature has no part in what it means. -/
theorem means_of_written (signature : Signature) (written : String) :
    Means { signature with written } signature :=
  ⟨rfl, rfl, rfl, rfl, fun _ => rfl, fun _ => rfl, rfl⟩

/-- **Patterns are normal forms**: below whatever base a signature was read, if its constants are
plain once they are decoded, its pattern is read at the root, and what is read means the same. -/
theorem pattern_normal_form (isRead : read base written = .ok signature)
    (spells : outline.Spells written)
    (plain : ∀ text, Token.constant text ∈ outline.below base → Plain (decodeSegment text)) :
    ∃ again, read [] signature.pattern = .ok again ∧ again.written = signature.pattern ∧
      again.Means signature :=
  ⟨_, read_pattern isRead spells plain, rfl, means_of_written signature _⟩

/-- The desk is read again from its pattern, in which its base is a constant. -/
theorem desk_read_again : ∃ signature again, read deskBase deskText = .ok signature ∧
    desk.Spells deskText ∧
    (∀ text, Token.constant text ∈ desk.below deskBase → Plain (decodeSegment text)) ∧
    signature.pattern = "/api/users/\x7bid\x7d/*//*" ∧
    read [] signature.pattern = .ok again ∧ again.Means signature := by
  have isPattern : (read deskBase deskText).map pattern = .ok "/api/users/\x7bid\x7d/*//*" := by
    decide +kernel
  obtain ⟨signature, isRead, -, -⟩ := desk_described
  have plain : ∀ text, Token.constant text ∈ desk.below deskBase → Plain (decodeSegment text) := by
    intro text member
    have either : text = "api" ∨ text = "Users" := by simpa [below, desk, deskBase] using member
    rcases either with rfl | rfl
    all_goals
      rw [decodeSegment_eq_self (by decide)]
      decide
  obtain ⟨again, readAgain, -, means⟩ := pattern_normal_form isRead desk_spells plain
  rw [isRead] at isPattern
  exact ⟨signature, again, isRead, desk_spells, plain, Except.ok.inj isPattern, readAgain, means⟩

end Signature

end Switchboard
