import Mathlib.Data.List.Induction
import Switchboard.Proofs.Uri.Encoded
import Switchboard.Proofs.Uri.Places
/-!
Segments that are added to a path.

The segment of a text is no drive letter, and it is dots just if the text is. So texts lead from the
segments that are there, up where they are two dots and down by names; names alone are added as they
are.

* `Uri.segments_append_way`: the segments once texts were added are those that their way leads to.
* `Uri.segments_append`: what stands before the segments of names does not depend on these.
* `Uri.segments_append_nil_iff`: it is what stood there, just if it has no dots and does not begin
  with a drive letter that is written anew.
-/

namespace Switchboard.Uri

open Text

/-! ### What is put in places -/

theorem isDriveLetter_colonDrive {segment : String} (drive : isDriveLetter segment = true) :
    isDriveLetter (colonDrive segment) = true := by
  unfold isDriveLetter at drive
  split at drive
  · rename_i letter mark text
    rw [Bool.and_eq_true] at drive
    simp [isDriveLetter, colonDrive, text, drive.1]
  · cases drive

theorem ne_empty_of_isDriveLetter {segment : String} (drive : isDriveLetter segment = true) :
    segment ≠ "" := by
  rintro rfl
  exact absurd drive (by decide)

/-- What is put in a place is kept as it is, or is a drive letter. -/
theorem of_mem_place {isFile : Bool} {above : List String} {segment other : String}
    (member : other ∈ place isFile false above segment) :
    other ∈ above ∨ (other = segment ∧ isProper segment = true) ∨ isDriveLetter other = true := by
  unfold place at member
  split at member
  · rename_i first
    obtain rfl := List.mem_singleton.mp member
    exact Or.inr (Or.inr (isDriveLetter_colonDrive (Bool.and_eq_true_iff.mp first).2))
  · by_cases proper : isProper segment = true
    · rw [addSegment_of_proper proper] at member
      rcases List.mem_append.mp member with old | new
      · exact Or.inl old
      · exact Or.inr (Or.inl ⟨List.mem_singleton.mp new, proper⟩)
    · left
      unfold addSegment at member
      split at member
      · exact dropLastSegment_subset above member
      · split at member
        · exact member
        · rename_i notAbove notHere
          exact absurd (isProper_iff.mpr ⟨Bool.eq_false_iff.mpr notAbove,
            Bool.eq_false_iff.mpr notHere⟩) proper

theorem of_mem_foldl_place {isFile : Bool} {above items : List String} {other : String}
    (member : other ∈ items.foldl (place isFile false) above) :
    other ∈ above ∨ (other ∈ items ∧ isProper other = true) ∨ isDriveLetter other = true := by
  induction items generalizing above with
  | nil => exact Or.inl member
  | cons item rest ih =>
    rcases ih member with placed | ⟨later, proper⟩ | drive
    · rcases of_mem_place placed with old | ⟨rfl, proper⟩ | drive
      · exact Or.inl old
      · exact Or.inr (Or.inl ⟨List.mem_cons_self, proper⟩)
      · exact Or.inr (Or.inr drive)
    · exact Or.inr (Or.inl ⟨List.mem_cons_of_mem item later, proper⟩)
    · exact Or.inr (Or.inr drive)

/-! ### Ways up and down -/

/-- Where texts lead from where they start: so many segments up, and then down by names. -/
structure Way where
  up : Nat
  down : List String
  deriving DecidableEq, Repr

namespace Way

/-- A way with one more text: two dots lead back, one dot leads nowhere. -/
def step (way : Way) (name : String) : Way :=
  if name = ".." then
    if way.down = [] then { way with up := way.up + 1 }
    else { way with down := way.down.dropLast }
  else if name = "." then way
  else { way with down := way.down ++ [name] }

/-- The way that texts lead along one after the other. -/
def along (names : List String) : Way := names.foldl step { up := 0, down := [] }

/-- The way that the pieces of texts lead along. -/
def of (texts : List String) : Way := along (piecesOf texts)

theorem along_concat (names : List String) (name : String) :
    along (names ++ [name]) = (along names).step name := by
  simp [along]

/-- Names lead down. -/
theorem along_of_steps {names : List String}
    (steps : ∀ name ∈ names, name ≠ ".." ∧ name ≠ ".") : along names = { up := 0, down := names } := by
  induction names using List.reverseRecOn with
  | nil => rfl
  | append_singleton names name ih =>
    obtain ⟨before, last⟩ := List.forall_mem_append.mp steps
    obtain ⟨notAbove, notHere⟩ := last name (List.mem_singleton_self name)
    rw [along_concat, ih before, step, if_neg notAbove, if_neg notHere]

/-- A way leads down by names that it was given. -/
theorem of_mem_down {names : List String} {name : String} (member : name ∈ (along names).down) :
    name ∈ names ∧ name ≠ ".." ∧ name ≠ "." := by
  induction names using List.reverseRecOn with
  | nil => cases member
  | append_singleton names last ih =>
    have before : name ∈ (along names).down → name ∈ names ++ [last] ∧ name ≠ ".." ∧ name ≠ "." :=
      fun earlier => ⟨List.mem_append_left _ (ih earlier).1, (ih earlier).2⟩
    rw [along_concat, step] at member
    split at member
    · split at member
      · exact before member
      · exact before (List.dropLast_subset _ member)
    · split at member
      · exact before member
      · rename_i notAbove notHere
        rcases List.mem_append.mp member with earlier | isLast
        · exact before earlier
        · obtain rfl := List.mem_singleton.mp isLast
          exact ⟨List.mem_append_right _ isLast, notAbove, notHere⟩

end Way

/-- The segments so many steps up; a drive letter is never left. -/
def climb : Nat → List String → List String
  | 0, segments => segments
  | up + 1, segments => dropLastSegment (climb up segments)

/-- The segments that a way leads to from others. -/
def Way.from (way : Way) (segments : List String) : List String :=
  climb way.up segments ++ way.down.map encodeSegment

theorem dropLastSegment_isPrefix (segments : List String) :
    dropLastSegment segments <+: segments := by
  unfold dropLastSegment
  split
  · split
    · exact List.prefix_refl _
    · exact List.dropLast_prefix _
  · exact List.nil_prefix

theorem climb_isPrefix (up : Nat) (segments : List String) : climb up segments <+: segments := by
  induction up with
  | zero => exact List.prefix_refl _
  | succ up ih => exact (dropLastSegment_isPrefix _).trans ih

/-- The segment of a text goes before anything else is left. -/
theorem dropLastSegment_encode (above names : List String) (name : String) :
    dropLastSegment (above ++ (names ++ [name]).map encodeSegment)
      = above ++ names.map encodeSegment := by
  rw [List.map_append, ← List.append_assoc, List.map_singleton, dropLastSegment,
    List.getLast?_concat]
  simp only [isDriveLetter_encodeSegment, List.dropLast_concat]
  rfl

/-- **The segment of one more text** is put in the place that the way leads to. -/
theorem place_encode (isFile : Bool) (above : List String) (way : Way) (name : String) :
    place isFile false (way.from above) (encodeSegment name) = (way.step name).from above := by
  rw [place, isDriveLetter_encodeSegment, Bool.and_false, if_neg Bool.false_ne_true, addSegment,
    Way.step]
  by_cases isAbove : name = ".."
  · rw [if_pos (isDoubleDot_encodeSegment_iff.mpr isAbove), if_pos isAbove]
    obtain ⟨up, down⟩ := way
    rcases List.eq_nil_or_concat down with rfl | ⟨names, last, rfl⟩
    · simp [Way.from, climb]
    · have back := dropLastSegment_encode (climb up above) names last
      simpa [Way.from] using back
  · rw [if_neg (mt isDoubleDot_encodeSegment_iff.mp isAbove), if_neg isAbove]
    by_cases isHere : name = "."
    · rw [if_pos (isSingleDot_encodeSegment_iff.mpr isHere), if_pos isHere]
      rfl
    · rw [if_neg (mt isSingleDot_encodeSegment_iff.mp isHere), if_neg isHere]
      simp [Way.from]

/-- The segments of texts are put in the places that their way leads to. -/
theorem foldl_place_encode (isFile : Bool) (above names : List String) :
    (names.map encodeSegment).foldl (place isFile false) above
      = (Way.along names).from above := by
  induction names using List.reverseRecOn with
  | nil => exact (List.append_nil above).symm
  | append_singleton names name ih =>
    rw [List.map_append, List.foldl_append, ih, Way.along_concat]
    exact place_encode isFile above _ name

/-! ### Adding segments -/

/-- Adding segments is setting those that are there and the others. -/
theorem append_eq_replace (uri : Uri) (texts : List String) :
    uri.append texts = uri.replace (uri.segments ++ (piecesOf texts).map encodeSegment) := by
  have text : ∀ items : List String,
      (if items = [] then "/" else Path.segmentsText items) = pathOf items := by
    intro items
    split
    · rename_i nothing
      rw [nothing]
      rfl
    · rename_i something
      exact segmentsText_of_ne_nil something
  rw [append, replace]
  exact congrArg uri.withPath (text _)

section Adding

variable {uri : Uri} (made : Made uri) (hierarchy : uri.isLiteral = false)
include made hierarchy

theorem append_fit {texts : List String} :
    AllChars (Fit uri.scheme) (uri.segments ++ (piecesOf texts).map encodeSegment) := by
  intro segment member c inSegment
  rcases List.mem_append.mp member with old | new
  · exact segments_fit made hierarchy segment old c inSegment
  · obtain ⟨name, -, rfl⟩ := List.mem_map.mp new
    obtain ⟨stays, free⟩ := of_isCoded (isCoded_of_mem inSegment)
    simp only [List.mem_cons, not_or] at free
    exact ⟨stays, free.1, fun _ => free.2.1⟩

/-- Texts that are added are put in their places after what was there. -/
theorem segments_append_place (texts : List String) : (uri.append texts).segments
    = (((piecesOf texts).map encodeSegment).foldl (place (decide (uri.scheme = "file")) false)
        (uri.segments.foldl (place (decide (uri.scheme = "file")) false) [])).filter (· ≠ "") := by
  rw [append_eq_replace, segments_replace_place made hierarchy (append_fit made hierarchy),
    List.foldl_append]

/-- **Texts lead from the segments of a URI**, or from what these become when they are read again,
up and down. -/
theorem segments_append_way (texts : List String) :
    (uri.append texts).segments = (Way.of texts).from (uri.append []).segments := by
  have placed : ∀ segment ∈ uri.segments.foldl (place (decide (uri.scheme = "file")) false) [],
      segment ≠ "" := by
    intro segment member
    rcases of_mem_foldl_place member with absent | ⟨isOld, -⟩ | drive
    · cases absent
    · exact (of_mem_segments isOld).1
    · exact ne_empty_of_isDriveLetter drive
  have nothing : (piecesOf []).map encodeSegment = [] := rfl
  have kept : (uri.append []).segments
      = uri.segments.foldl (place (decide (uri.scheme = "file")) false) [] := by
    rw [segments_append_place made hierarchy, nothing, List.foldl_nil]
    exact List.filter_eq_self.mpr (by simpa using placed)
  rw [segments_append_place made hierarchy, kept, foldl_place_encode]
  apply List.filter_eq_self.mpr
  intro segment member
  rcases List.mem_append.mp member with old | new
  · exact decide_eq_true (placed segment ((climb_isPrefix _ _).subset old))
  · obtain ⟨name, isNew, rfl⟩ := List.mem_map.mp new
    obtain ⟨isPiece, -⟩ := Way.of_mem_down isNew
    exact decide_eq_true (encodeSegment_ne_empty (ne_empty_of_mem_piecesOf isPiece))

/-- **What stands before the segments of names** that are added does not depend on these, and they
are added as they are. -/
theorem segments_append {names : List String} (areNames : ∀ name ∈ names, IsName name) :
    (uri.append names).segments = (uri.append []).segments ++ names.map encodeSegment := by
  rw [segments_append_way made hierarchy, Way.of, piecesOf_names areNames,
    Way.along_of_steps fun name member => ⟨(areNames name member).notAbove,
      (areNames name member).notHere⟩]
  rfl

/-- **What stands before them** is what stood there just if that lasts. -/
theorem segments_append_nil_iff :
    (uri.append []).segments = uri.segments
      ↔ Lasting (decide (uri.scheme = "file")) uri.segments := by
  rw [append_eq_replace, segments_replace_place made hierarchy (append_fit made hierarchy)]
  have noNames : (piecesOf []).map encodeSegment = [] := rfl
  rw [noNames, List.append_nil]
  exact foldl_place_eq_self_iff fun segment member => (of_mem_segments member).1

end Adding

end Switchboard.Uri
