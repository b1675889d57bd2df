import Switchboard.Proofs.Text.Form
import Switchboard.Proofs.Uri.Schemes
import Switchboard.Signature
/-!
Names as segments of a path.

A name becomes a segment by percent codes for all but letters, digits and a few signs. The percent
sign is written as a code too, so whatever a name looks like, the segment stands for that name and
for nothing else: it is read as it is, and a signature decodes it to the name.

* `Uri.decodeSegment_encodeSegment`: a name is what its segment is decoded to.
-/

namespace Switchboard

namespace Uri

open Text

/-! ### Bytes of a segment -/

/-- The text of one byte in a segment. -/
def byteText (byte : UInt8) : List Char :=
  if Form.isPlain byte.toNat then [Char.ofNat byte.toNat] else Percent.writeByte byte

/-- Says whether a character can stand in the segment of a name. -/
def isCoded (c : Char) : Bool := Form.isPlain c.toNat || c == '%'

theorem toList_encodeSegment (name : String) :
    (encodeSegment name).toList = (Utf8.encode name).flatMap byteText := by
  rw [encodeSegment, String.toList_ofList, Form.write, List.flatMap_assoc]
  congr 1
  exact funext (forall_bytes (by decide +kernel))

theorem isCoded_of_mem {name : String} {c : Char} (member : c ∈ (encodeSegment name).toList) :
    isCoded c = true := by
  have all : ∀ byte, (byteText byte).all isCoded = true := forall_bytes (by decide +kernel)
  rw [toList_encodeSegment] at member
  obtain ⟨byte, -, written⟩ := List.mem_flatMap.mp member
  exact List.all_eq_true.mp (all byte) c written

/-- A character of a segment is ASCII, stays in a path, and ends neither a segment nor a drive
letter. -/
theorem of_isCoded {c : Char} (coded : isCoded c = true) :
    Percent.Stays Percent.path c ∧ c ∉ ['/', '\\', ':', '|'] := by
  have small : c.toNat < 0x80 := by
    unfold isCoded Form.isPlain at coded
    by_cases percent : c = '%'
    · rw [percent]
      decide
    · simp [percent] at coded
      omega
  have all : ∀ n ∈ List.range 0x80, isCoded (Char.ofNat n) = true →
      Percent.Stays Percent.path (Char.ofNat n) ∧ Char.ofNat n ∉ ['/', '\\', ':', '|'] := by
    decide +kernel
  have found := all c.toNat (List.mem_range.mpr small)
  rw [Char.ofNat_toNat] at found
  exact found coded

/-- As bytes, a segment is what it stands for with codes for all but plain ones. -/
theorem map_asciiByte_byteText : ∀ byte, (byteText byte).map Percent.asciiByte
    = Percent.escape (fun byte => !Form.isPlain byte.toNat) byte :=
  forall_bytes (by decide +kernel)

theorem decode_encodeSegment (name : String) :
    Percent.decode (encodeSegment name) = Utf8.encode name := by
  have ascii : ∀ c ∈ (encodeSegment name).toList, c.toNat < 0x80 :=
    fun c member => (of_isCoded (isCoded_of_mem member)).1.1
  have bytes : Utf8.encodeChars (encodeSegment name).toList
      = (Utf8.encode name).flatMap (Percent.escape fun byte => !Form.isPlain byte.toNat) := by
    rw [Utf8.encodeChars_of_ascii ascii, toList_encodeSegment]
    exact List.map_flatMap.trans (congrArg (List.flatMap · _) (funext map_asciiByte_byteText))
  rw [Percent.decode, Utf8.encode, bytes, Percent.decodeBytes_flatMap_escape (by decide)]

/-- **A name is what its segment is decoded to.** -/
theorem decodeSegment_encodeSegment (name : String) :
    Signature.decodeSegment (encodeSegment name) = name := by
  rw [Signature.decodeSegment, decode_encodeSegment, Utf8.decode?_encode]

/-! ### Dots -/

/-- A sign is the small letter of itself alone. -/
theorem eq_of_toLower_sign {c sign : Char}
    (noLetter : (capitals.all fun c => c.toLower != sign) = true) (same : c.toLower = sign) :
    c = sign := by
  rcases toLower_eq_self_or_mem c with itself | isCapital
  · exact itself.symm.trans same
  · have differs := List.all_eq_true.mp noLetter c isCapital
    exact absurd same (bne_iff_ne.mp differs)

theorem eq_of_toLower_e {c : Char} (same : c.toLower = 'e') : c = 'e' ∨ c = 'E' := by
  have all : (capitals.all fun c => c.toLower != 'e' || c == 'E') = true := by decide
  rcases toLower_eq_self_or_mem c with itself | isCapital
  · exact Or.inl (itself.symm.trans same)
  · have capital := List.all_eq_true.mp all c isCapital
    simpa [same] using Or.inr capital

/-- Says that a text is a dot or the percent code of one. -/
def IsDot (text : List Char) : Prop :=
  text.map Char.toLower = ['.'] ∨ text.map Char.toLower = ['%', '2', 'e']

/-- A dot is decoded to a dot, whatever follows. -/
theorem IsDot.decodeBytes {text : List Char} (dot : IsDot text) (rest : Bytes) :
    Percent.decodeBytes (Utf8.encodeChars text ++ rest) = 0x2E :: Percent.decodeBytes rest := by
  have code : ∀ letter : UInt8, letter = 0x65 ∨ letter = 0x45 →
      Percent.decodeBytes (0x25 :: 0x32 :: letter :: rest) = 0x2E :: Percent.decodeBytes rest := by
    intro letter isLetter
    have value : Percent.hexByte? 0x32 = some 2 ∧ Percent.hexByte? letter = some 14 := by
      rcases isLetter with rfl | rfl <;> decide
    rw [Percent.decodeBytes]
    simp [value]
  rcases dot with isDot | isCode
  · obtain ⟨c, rfl, same⟩ := List.map_eq_singleton_iff.mp isDot
    obtain rfl := eq_of_toLower_sign (by decide) same
    exact Percent.decodeBytes_cons_of_ne (by decide) rest
  · simp only [List.map_eq_cons_iff, List.map_eq_nil_iff] at isCode
    obtain ⟨a, _, rfl, isA, b, _, rfl, isB, c, _, rfl, isC, rfl⟩ := isCode
    obtain rfl := eq_of_toLower_sign (by decide) isA
    obtain rfl := eq_of_toLower_sign (by decide) isB
    rcases eq_of_toLower_e isC with rfl | rfl
    · exact code 0x65 (Or.inl rfl)
    · exact code 0x45 (Or.inr rfl)

theorem isDot_of_isSingleDot {segment : String} (single : isSingleDot segment = true) :
    IsDot segment.toList := by
  simpa [IsDot, isSingleDot, ← String.toList_inj, toList_lower] using single

theorem isDot_of_isDoubleDot {segment : String} (double : isDoubleDot segment = true) :
    ∃ one other, segment.toList = one ++ other ∧ IsDot one ∧ IsDot other := by
  have cut : ∀ {one other : List Char}, segment.toList.map Char.toLower = one ++ other →
      one ∈ [['.'], ['%', '2', 'e']] → other ∈ [['.'], ['%', '2', 'e']] →
      ∃ one other, segment.toList = one ++ other ∧ IsDot one ∧ IsDot other := by
    intro one other same isOne isOther
    obtain ⟨front, back, parts, rfl, rfl⟩ := List.map_eq_append_iff.mp same
    exact ⟨front, back, parts, by simpa [IsDot] using isOne, by simpa [IsDot] using isOther⟩
  simp only [isDoubleDot, decide_eq_true_eq, List.mem_cons, List.not_mem_nil, or_false,
    ← String.toList_inj, toList_lower] at double
  rcases double with same | same | same | same
  · exact @cut ['.'] ['.'] same (by decide) (by decide)
  · exact @cut ['%', '2', 'e'] ['%', '2', 'e'] same (by decide) (by decide)
  · exact @cut ['%', '2', 'e'] ['.'] same (by decide) (by decide)
  · exact @cut ['.'] ['%', '2', 'e'] same (by decide) (by decide)

theorem decode_of_isSingleDot {segment : String} (single : isSingleDot segment = true) :
    Percent.decode segment = Utf8.encode "." := by
  have decoded := (isDot_of_isSingleDot single).decodeBytes []
  rw [List.append_nil, Percent.decodeBytes] at decoded
  exact decoded

theorem decode_of_isDoubleDot {segment : String} (double : isDoubleDot segment = true) :
    Percent.decode segment = Utf8.encode ".." := by
  obtain ⟨one, other, parts, isOne, isOther⟩ := isDot_of_isDoubleDot double
  have decoded := isOther.decodeBytes []
  rw [List.append_nil, Percent.decodeBytes] at decoded
  have whole : Utf8.encode segment = Utf8.encodeChars one ++ Utf8.encodeChars other := by
    rw [Utf8.encode, parts]
    exact List.flatMap_append
  rw [Percent.decode, whole, isOne.decodeBytes, decoded]
  rfl

/-! ### The segment of a name -/

/-- **Says that a text can be the name of one segment**: it is not empty, holds no slash and is
neither one dot nor two. -/
structure IsName (name : String) : Prop where
  given : name ≠ ""
  single : '/' ∉ name.toList
  notHere : name ≠ "."
  notAbove : name ≠ ".."

instance (name : String) : Decidable (IsName name) :=
  decidable_of_iff (name ≠ "" ∧ '/' ∉ name.toList ∧ name ≠ "." ∧ name ≠ "..")
    ⟨fun ⟨given, single, notHere, notAbove⟩ => ⟨given, single, notHere, notAbove⟩,
      fun isName => ⟨isName.given, isName.single, isName.notHere, isName.notAbove⟩⟩

theorem eq_of_encode_eq {one other : String} (same : Utf8.encode one = Utf8.encode other) :
    one = other := by
  have decoded := Utf8.decode?_encode one
  rw [same, Utf8.decode?_encode] at decoded
  exact (Except.ok.inj decoded).symm

/-- The segment of a text is two dots just if the text is. -/
theorem isDoubleDot_encodeSegment_iff {name : String} :
    isDoubleDot (encodeSegment name) = true ↔ name = ".." := by
  constructor
  · intro double
    have decoded := decode_of_isDoubleDot double
    rw [decode_encodeSegment] at decoded
    exact eq_of_encode_eq decoded
  · rintro rfl
    decide +kernel

/-- The segment of a text is one dot just if the text is. -/
theorem isSingleDot_encodeSegment_iff {name : String} :
    isSingleDot (encodeSegment name) = true ↔ name = "." := by
  constructor
  · intro single
    have decoded := decode_of_isSingleDot single
    rw [decode_encodeSegment] at decoded
    exact eq_of_encode_eq decoded
  · rintro rfl
    decide +kernel

theorem encodeSegment_ne_empty {name : String} (given : name ≠ "") : encodeSegment name ≠ "" := by
  intro empty
  have decoded := decodeSegment_encodeSegment name
  rw [empty] at decoded
  exact given (decoded.symm.trans (by decide +kernel))

/-- The segment of a name is not taken for a drive letter. -/
theorem isDriveLetter_encodeSegment (name : String) :
    isDriveLetter (encodeSegment name) = false := by
  rw [Bool.eq_false_iff]
  intro drive
  unfold isDriveLetter at drive
  split at drive
  · rename_i letter mark text
    have coded := (of_isCoded (isCoded_of_mem (text ▸ List.mem_cons_of_mem letter
      (List.mem_singleton_self mark) : mark ∈ (encodeSegment name).toList))).2
    simp only [Bool.and_eq_true, Bool.or_eq_true, beq_iff_eq] at drive
    rcases drive.2 with rfl | rfl
    · exact coded (by decide)
    · exact coded (by decide)
  · cases drive

theorem ne_empty_of_mem_piecesOf {texts : List String} {piece : String}
    (member : piece ∈ piecesOf texts) : piece ≠ "" := by
  obtain ⟨text, -, isPiece⟩ := List.mem_flatMap.mp member
  exact of_decide_eq_true (List.mem_filter.mp isPiece).2

/-- Names are not cut into pieces. -/
theorem piecesOf_names {names : List String} (areNames : ∀ name ∈ names, IsName name) :
    piecesOf names = names := by
  induction names with
  | nil => rfl
  | cons name rest ih =>
    obtain ⟨first, others⟩ := List.forall_mem_cons.mp areNames
    have whole : (split '/' name).filter (· ≠ "") = [name] := by
      rw [split, splitOn_of_not_mem first.single]
      simp [first.given]
    have parts : piecesOf (name :: rest) = (split '/' name).filter (· ≠ "") ++ piecesOf rest := rfl
    rw [parts, whole, ih others]
    rfl

end Uri

end Switchboard
