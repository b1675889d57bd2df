import Mathlib.Data.Bool.AllAny
import Switchboard.Proofs.Uri.Encoded
import Switchboard.Proofs.Uri.Punycode
import Switchboard.Proofs.Uri.Schemes
import Switchboard.Uri.Domain
/-!
Domain names in ASCII.

Reading a name puts it into small letters and all of its labels into ASCII. A name that is written
so already is read as it is, if it is read at all: a label with a mark in front has to be what is
written for its characters, and no others are written in that way.

* `Domain.text?_of_flat`: a name in small ASCII letters is read as it is.
* `Domain.of_mem_text?`: the characters of all names that are read.
-/

namespace Switchboard

open Text

/-- Says that a character is in ASCII and no capital. -/
def Flat (c : Char) : Prop := c.toNat < 0x80 ∧ c.toLower = c

theorem Flat.small {c : Char} (flat : Flat c) : Punycode.Small c := by
  rintro ⟨least, greatest⟩
  have all : ∀ n ∈ List.range 91, 65 ≤ n → (Char.ofNat n).toLower ≠ Char.ofNat n := by decide
  have changes := all c.toNat (List.mem_range.mpr (by omega)) least
  rw [Char.ofNat_toNat] at changes
  exact changes flat.2

/-- Small letters are flat if they are in ASCII. -/
theorem flat_toLower {c : Char} (ascii : c.toNat < 0x80) : Flat c.toLower := by
  refine ⟨?_, of_toLower (by decide) c⟩
  have all : (capitals.all fun c => decide (c.toLower.toNat < 0x80)) = true := by decide
  rcases toLower_eq_self_or_mem c with itself | isCapital
  · rwa [itself]
  · exact of_decide_eq_true (List.all_eq_true.mp all c isCapital)

section Traversal

variable {α β : Type} {read : α → Option β} {items : List α} {results : List β}

/-- The results are read from the items one by one. -/
theorem forall₂_of_mapM (reads : items.mapM read = some results) :
    List.Forall₂ (fun item result => read item = some result) items results := by
  induction items generalizing results with
  | nil =>
    cases reads
    exact .nil
  | cons item rest ih =>
    rw [List.mapM_cons] at reads
    obtain ⟨first, isFirst, reads⟩ := Option.bind_eq_some_iff.mp reads
    obtain ⟨others, areOthers, reads⟩ := Option.bind_eq_some_iff.mp reads
    obtain rfl := Option.some.inj reads
    exact .cons isFirst (ih areOthers)

/-- Each result is read from an item. -/
theorem exists_of_mem_mapM (reads : items.mapM read = some results) {result : β}
    (member : result ∈ results) : ∃ item ∈ items, read item = some result := by
  have inTurn := forall₂_of_mapM reads
  clear reads
  induction inTurn with
  | nil => cases member
  | @cons item first rest others isFirst areOthers ih =>
    rcases List.mem_cons.mp member with rfl | later
    · exact ⟨item, List.mem_cons_self, isFirst⟩
    · obtain ⟨other, inRest, isOther⟩ := ih later
      exact ⟨other, List.mem_cons_of_mem _ inRest, isOther⟩

/-- What the results tell is told by the items, if each item tells it of its result. -/
theorem map_eq_of_mapM {γ : Type} (tell : β → γ) (known : α → γ)
    (reads : items.mapM read = some results)
    (same : ∀ item ∈ items, ∀ result, read item = some result → tell result = known item) :
    results.map tell = items.map known := by
  have inTurn := forall₂_of_mapM reads
  clear reads
  induction inTurn with
  | nil => rfl
  | cons isFirst areOthers ih =>
    obtain ⟨sameFirst, sameRest⟩ := List.forall_mem_cons.mp same
    rw [List.map_cons, List.map_cons, sameFirst _ isFirst, ih sameRest]

end Traversal

/-- What is left of a text after its beginning. -/
theorem append_of_dropStart? {start text rest : List Char}
    (drops : dropStart? start text = some rest) : text = start ++ rest := by
  unfold dropStart? at drops
  split at drops
  · rename_i begins
    obtain ⟨others, rfl⟩ := List.isPrefixOf_iff_prefix.mp begins
    rw [List.drop_left] at drops
    rw [Option.some.inj drops]
  · cases drops

namespace Label

variable {text folded : List Char}

/-! ### Folding -/

theorem of_fold? (folds : fold? text = some folded) : ∃ parts, text.mapM foldChar? = some parts ∧
    Composed.compose parts.flatten = folded ∧ ∀ c ∈ folded, isForbidden c = false := by
  obtain ⟨parts, isParts, folds⟩ := Option.bind_eq_some_iff.mp folds
  obtain ⟨_, allowed, folds⟩ := Option.bind_eq_some_iff.mp folds
  obtain rfl := Option.some.inj folds
  have all := List.all_eq_true.mp ((Option.guard_eq_some' _).mp allowed)
  exact ⟨parts, isParts, rfl, fun c member => by simpa using all c member⟩

/-- A text in small ASCII letters is folded already. -/
theorem eq_of_fold? (flat : ∀ c ∈ text, Flat c) (folds : fold? text = some folded) :
    folded = text := by
  obtain ⟨parts, isParts, composed, -⟩ := of_fold? folds
  have isMapped : parts.map id = text.map fun c => [c] := by
    refine map_eq_of_mapM id (fun c => [c]) isParts fun c member part isPart => ?_
    rw [foldChar?, if_pos (flat c member).1, (flat c member).2] at isPart
    exact (Option.some.inj isPart).symm
  have same : parts.flatten = text := by
    rw [← List.map_id parts, isMapped, ← List.flatMap_def]
    exact List.flatMap_singleton' text
  rw [← composed, same, Composed.compose, if_pos]
  exact List.all_eq_true.mpr fun c member =>
    decide_eq_true (Nat.lt_trans (flat c member).1 (by omega))

/-- Capitals in ASCII are folded as their small letters are. -/
theorem fold?_map_toLower {text : List Char} (ascii : ∀ c ∈ text, c.toNat < 0x80) :
    fold? (text.map Char.toLower) = fold? text := by
  have parts : (text.map Char.toLower).mapM foldChar? = text.mapM foldChar? := by
    induction text with
    | nil => rfl
    | cons c rest ih =>
      obtain ⟨first, others⟩ := List.forall_mem_cons.mp ascii
      have flat := flat_toLower first
      have same : foldChar? c.toLower = foldChar? c := by
        rw [foldChar?, foldChar?, if_pos flat.1, if_pos first, flat.2]
      rw [List.map_cons, List.mapM_cons, List.mapM_cons, same, ih others]
  rw [fold?, fold?, parts]

/-! ### Labels -/

theorem of_decode? {coded points : List Char} (decodes : decode? coded = some points) :
    isAscii coded = true ∧ coded ≠ [] ∧ coded.getLast? ≠ some '-' ∧
      Punycode.decode? coded = some points ∧ fold? points = some points := by
  obtain ⟨_, sound, decodes⟩ := Option.bind_eq_some_iff.mp decodes
  obtain ⟨found, read, decodes⟩ := Option.bind_eq_some_iff.mp decodes
  obtain ⟨_, folded, decodes⟩ := Option.bind_eq_some_iff.mp decodes
  obtain rfl := Option.some.inj decodes
  have guards := (Option.guard_eq_some' _).mp sound
  simp only [Bool.and_eq_true, decide_eq_true_eq] at guards
  have folds := (Option.guard_eq_some' _).mp folded
  simp only [Bool.and_eq_true, decide_eq_true_eq] at folds
  exact ⟨guards.1.1.1, guards.1.1.2, guards.1.2, read, folds.1⟩

/-- What is written for a label in ASCII is empty or ends in a sign. -/
theorem encode_of_isAscii {points : List Char} (ascii : isAscii points = true) :
    Punycode.encode points = if points = [] then [] else points ++ ['-'] := by
  have all : points.filter (fun c => c.toNat < 0x80) = points :=
    List.filter_eq_self.mpr (List.all_eq_true.mp ascii)
  have noCodes : Punycode.codesOf points = [] := by
    refine List.eq_nil_iff_forall_not_mem.mpr fun code member => ?_
    obtain ⟨wide, c, inPoints, rfl⟩ := Punycode.mem_codesOf.mp member
    have small := of_decide_eq_true (List.all_eq_true.mp ascii c inPoints)
    omega
  rw [Punycode.encode, all, noCodes]
  simp only [Punycode.writePoints, List.isEmpty_iff]

/-- A label that is read and its two forms. -/
theorem of_read? {piece : List Char} {label : Label} (read : read? piece = some label) :
    label.text = (if isAscii label.points then label.points
      else mark ++ Punycode.encode label.points) ∧
    match dropStart? mark piece with
    | some coded => decode? coded = some label.points
    | none => label.points = piece := by
  have sound : ∀ {points : List Char}, ((guard (isSound points = true) : Option Unit).bind fun _ =>
      some { points, text := if isAscii points then points else mark ++ Punycode.encode points }
        : Option Label) = some label → points = label.points ∧
      label.text = if isAscii label.points then label.points
        else mark ++ Punycode.encode label.points := by
    intro points read
    obtain ⟨_, -, read⟩ := Option.bind_eq_some_iff.mp read
    obtain rfl := Option.some.inj read
    exact ⟨rfl, rfl⟩
  rw [read?] at read
  cases marked : dropStart? mark piece with
  | none =>
    rw [marked] at read
    obtain ⟨isPoints, isText⟩ := sound read
    exact ⟨isText, isPoints.symm⟩
  | some coded =>
    rw [marked] at read
    obtain ⟨points, decodes, read⟩ := Option.bind_eq_some_iff.mp read
    obtain ⟨isPoints, isText⟩ := sound read
    exact ⟨isText, isPoints ▸ decodes⟩

/-- **A label in small ASCII letters** is read as it is, with a mark or without. -/
theorem text_of_read? {piece : List Char} {label : Label} (flat : ∀ c ∈ piece, Flat c)
    (read : read? piece = some label) : label.text = piece := by
  obtain ⟨isText, isPoints⟩ := of_read? read
  rw [isText]
  split at isPoints
  · rename_i coded marked
    obtain ⟨asciiCoded, given, noSign, decodes, -⟩ := of_decode? isPoints
    have whole := append_of_dropStart? marked
    have flatCoded : ∀ c ∈ coded, Flat c := fun c member => flat c <| by
      rw [whole]
      exact List.mem_append_right _ member
    have isCoded : Punycode.encode label.points = coded :=
      Punycode.encode_of_decode? (fun c member => (flatCoded c member).1)
        (fun c member => (flatCoded c member).small) decodes
    -- A label in ASCII is not written in this way.
    have beyond : isAscii label.points = false := by
      refine Bool.eq_false_iff.mpr fun ascii => ?_
      rw [encode_of_isAscii ascii] at isCoded
      split at isCoded
      · exact given isCoded.symm
      · exact noSign (by rw [← isCoded, List.getLast?_concat])
    rw [if_neg (by simp [beyond]), isCoded, whole]
  · rename_i unmarked
    have ascii : isAscii label.points = true := by
      rw [isPoints]
      exact List.all_eq_true.mpr fun c member => decide_eq_true (flat c member).1
    rw [if_pos ascii, isPoints]

/-- Says that a character can stand in a name that was read. -/
structure Named (c : Char) : Prop where
  ascii : c.toNat < 0x80
  allowed : isForbidden c = false

theorem named_digit {n : Nat} (small : n < 36) : Named (Punycode.digit n) := by
  have all : ∀ m ∈ List.range 36, (Punycode.digit m).toNat < 0x80 ∧
      isForbidden (Punycode.digit m) = false := by decide +kernel
  obtain ⟨ascii, allowed⟩ := all n (List.mem_range.mpr small)
  exact ⟨ascii, allowed⟩

/-- The characters of the text of a label. -/
theorem named_of_read? {piece : List Char} {label : Label} (read : read? piece = some label)
    (allowed : ∀ c ∈ piece, isForbidden c = false) : ∀ c ∈ label.text, Named c := by
  obtain ⟨isText, isPoints⟩ := of_read? read
  have allowedPoints : ∀ c ∈ label.points, isForbidden c = false := by
    split at isPoints
    · obtain ⟨-, -, -, -, folds⟩ := of_decode? isPoints
      obtain ⟨-, -, -, all⟩ := of_fold? folds
      exact all
    · rwa [isPoints]
  intro c member
  rw [isText] at member
  split at member
  · rename_i ascii
    exact ⟨of_decide_eq_true (List.all_eq_true.mp ascii c member), allowedPoints c member⟩
  · rcases List.mem_append.mp member with inMark | isCoded
    · have all : ∀ d ∈ mark, d.toNat < 0x80 ∧ isForbidden d = false :=
        List.all_iff_forall_prop.mp (by decide)
      exact ⟨(all c inMark).1, (all c inMark).2⟩
    · rcases Punycode.of_mem_encode isCoded with ⟨ascii, inPoints⟩ | rfl | ⟨n, small, rfl⟩
      · exact ⟨ascii, allowedPoints c inPoints⟩
      · exact ⟨by decide, by decide⟩
      · exact named_digit small

end Label

namespace Domain

theorem of_text? {bytes : Bytes} {name : List Char} (read : text? bytes = some name) :
    ∃ text folded labels, Utf8.decode? bytes = .ok text ∧ Label.fold? text.toList = some folded ∧
      (splitOn '.' folded).mapM Label.read? = some labels ∧
      name = joinWith '.' (labels.map Label.text) := by
  obtain ⟨text, isText, read⟩ := Option.bind_eq_some_iff.mp read
  obtain ⟨folded, folds, read⟩ := Option.bind_eq_some_iff.mp read
  obtain ⟨labels, areLabels, read⟩ := Option.bind_eq_some_iff.mp read
  obtain ⟨_, -, read⟩ := Option.bind_eq_some_iff.mp read
  refine ⟨text, folded, labels, ?_, folds, areLabels, (Option.some.inj read).symm⟩
  cases decoded : Utf8.decode? bytes with
  | error fault =>
    rw [decoded] at isText
    cases isText
  | ok found =>
    rw [decoded] at isText
    exact congrArg Except.ok (Option.some.inj isText)

/-- A name in ASCII is read as it is in small letters. -/
theorem text?_map_toLower {name : List Char} (ascii : ∀ c ∈ name, c.toNat < 0x80) :
    text? (Utf8.encodeChars (name.map Char.toLower)) = text? (Utf8.encodeChars name) := by
  have decoded : ∀ chars : List Char, Utf8.decode? (Utf8.encodeChars chars)
      = .ok (String.ofList chars) := by
    intro chars
    have whole := Utf8.decode?_encode (String.ofList chars)
    rwa [Utf8.encode, String.toList_ofList] at whole
  rw [text?, text?, decoded, decoded]
  show (Label.fold? (String.ofList (name.map Char.toLower)).toList >>= _)
    = (Label.fold? (String.ofList name).toList >>= _)
  rw [String.toList_ofList, String.toList_ofList, Label.fold?_map_toLower ascii]

/-- **A name in small ASCII letters** is read as it is, if it is read. -/
theorem text?_of_flat {name found : List Char} (flat : ∀ c ∈ name, Flat c)
    (read : text? (Utf8.encodeChars name) = some found) : found = name := by
  obtain ⟨text, folded, labels, decoded, folds, areLabels, rfl⟩ := of_text? read
  have isName : text.toList = name := by
    have whole := Utf8.decode?_encode (String.ofList name)
    rw [Utf8.encode, String.toList_ofList, decoded] at whole
    rw [Except.ok.inj whole, String.toList_ofList]
  rw [isName] at folds
  obtain rfl := Label.eq_of_fold? flat folds
  have same : labels.map Label.text = (splitOn '.' folded).map id :=
    map_eq_of_mapM Label.text id areLabels fun piece member label read =>
      Label.text_of_read? (fun c inPiece => flat c (mem_of_mem_splitOn member inPiece)) read
  rw [same, List.map_id, join_splitOn]

/-- **The characters of all names** that are read. -/
theorem of_mem_text? {bytes : Bytes} {name : List Char} (read : text? bytes = some name) :
    ∀ c ∈ name, Label.Named c := by
  obtain ⟨text, folded, labels, -, folds, areLabels, rfl⟩ := of_text? read
  obtain ⟨-, -, -, allowed⟩ := Label.of_fold? folds
  intro c member
  rcases of_mem_joinWith member with rfl | ⟨piece, isPiece, inPiece⟩
  · exact ⟨by decide, by decide⟩
  · obtain ⟨label, isLabel, rfl⟩ := List.mem_map.mp isPiece
    obtain ⟨source, isSource, read⟩ := exists_of_mem_mapM areLabels isLabel
    exact Label.named_of_read? read
      (fun d inSource => allowed d (mem_of_mem_splitOn isSource inSource)) c inPiece

end Domain

end Switchboard
