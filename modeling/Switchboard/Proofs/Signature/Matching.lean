import Switchboard.Proofs.Signature.Grammar
/-!
Which paths a signature serves.

A path fits a signature as it is written if it has a segment for each token, no more beyond these
than there may be, and the constants at their positions. A signature serves every path that fits it.
It serves others too if a constant, once percent codes are gone, is a single star: in the places of a
signature that is what stands for a capture.

* `Signature.accepts_iff_agrees`: what a signature serves.
* `Signature.accepts_iff_fits`: what it serves is what fits it, just if no constant reads as a star.
-/

namespace Switchboard.Signature

open Outline

variable {base : List String} {written : String} {signature : Signature} {outline : Outline}
  {path : List String}

/-- Says that a path has as many segments as tokens below a base, and those that may follow. -/
structure Outline.Spans (outline : Outline) (base path : List String) : Prop where
  reaches : (outline.below base).length ≤ path.length
  ends : outline.isOpen = false → path.length ≤ (outline.below base).length + outline.optional

/-- **A path fits what is written**: it has the right number of segments, and those at constants are
the same as these, without percent codes and in small letters. -/
structure Outline.Fits (outline : Outline) (base path : List String) : Prop
    extends outline.Spans base path where
  constants : ∀ (index : Nat) text segment, (outline.below base)[index]? = some (.constant text) →
    path[index]? = some segment → foldSegment segment = foldSegment text

/-- What is said of all pairs of two lists is said of what stands at each position. -/
theorem all_zip_iff {α β : Type} {xs : List α} {ys : List β} {p : α × β → Bool} :
    (xs.zip ys).all p = true ↔
      ∀ (index : Nat) x y, xs[index]? = some x → ys[index]? = some y → p (x, y) = true := by
  rw [List.all_eq_true]
  constructor
  · intro holds index x y isLeft isRight
    apply holds
    exact List.mem_of_getElem? (List.getElem?_zip_eq_some.mpr ⟨isLeft, isRight⟩)
  · rintro holds ⟨x, y⟩ member
    obtain ⟨index, together⟩ := List.mem_iff_getElem?.mp member
    obtain ⟨isLeft, isRight⟩ := List.getElem?_zip_eq_some.mp together
    exact holds index x y isLeft isRight

/-- A capture accepts every segment, and so does a constant that reads as a star. -/
theorem acceptsSegment_iff {token : Token} {index : Nat} {segment : String} :
    acceptsSegment (token.place index) segment = true ↔
      ∀ text, token = .constant text →
        foldSegment text = "*" ∨ foldSegment segment = foldSegment text := by
  cases token <;> simp [acceptsSegment, Token.segment]

theorem extent_allows_iff {count : Nat} :
    outline.extent.allows count = true ↔ (outline.isOpen = false → count ≤ outline.optional) := by
  unfold Outline.extent
  cases outline.isOpen <;> simp [Extent.allows]

/-- **What a signature serves**: paths of the right length that agree with its constants, except that
one that reads as a star agrees with everything. -/
theorem accepts_iff_agrees (isRead : read base written = .ok signature)
    (spells : outline.Spells written) : signature.accepts path = true ↔
      outline.Spans base path ∧ ∀ (index : Nat) text segment,
        (outline.below base)[index]? = some (.constant text) → path[index]? = some segment →
          foldSegment text = "*" ∨ foldSegment segment = foldSegment text := by
  obtain ⟨places, extent⟩ := places_of_read isRead spells
  have length := fixedLength_of_places places
  have segments : (signature.places.zip path).all (fun pair =>
      acceptsSegment pair.1 pair.2) = true ↔ ∀ (index : Nat) text segment,
        (outline.below base)[index]? = some (.constant text) → path[index]? = some segment →
          foldSegment text = "*" ∨ foldSegment segment = foldSegment text := by
    rw [all_zip_iff, places]
    constructor
    · intro accepted index text segment isConstant isSegment
      have isPlace : (placesFrom 0 (outline.below base))[index]?
          = some (Token.place index (.constant text)) := by
        rw [getElem?_placesFrom, isConstant]
        rfl
      have passes : acceptsSegment (Token.place index (.constant text)) segment = true :=
        accepted index _ segment isPlace isSegment
      exact acceptsSegment_iff.mp passes text rfl
    · intro agrees index place segment isPlace isSegment
      rw [getElem?_placesFrom, Option.map_eq_some_iff] at isPlace
      obtain ⟨token, isToken, rfl⟩ := isPlace
      refine acceptsSegment_iff.mpr fun text isConstant => ?_
      exact agrees index text segment (isConstant ▸ isToken) isSegment
  unfold accepts
  rw [Bool.and_eq_true, Bool.and_eq_true, decide_eq_true_eq, extent, extent_allows_iff, length]
  refine (and_congr_right' segments).trans ?_
  constructor
  · rintro ⟨⟨reaches, ends⟩, agrees⟩
    refine ⟨⟨reaches, fun closed => ?_⟩, agrees⟩
    have within := ends closed
    omega
  · rintro ⟨⟨reaches, ends⟩, agrees⟩
    refine ⟨⟨reaches, fun closed => ?_⟩, agrees⟩
    have within := ends closed
    omega

/-! ### Constants that read as a star -/

/-- A path that agrees with the tokens of a signature except where a constant reads as a star. -/
def Outline.stray (outline : Outline) (base : List String) : List String :=
  (outline.below base).map fun token => match token with
    | .constant text => if foldSegment text = "*" then "x" else text
    | _ => "x"

theorem foldSegment_x_ne : foldSegment "x" ≠ "*" := by decide +kernel

theorem getElem?_stray {index : Nat} {text segment : String}
    (isConstant : (outline.below base)[index]? = some (.constant text))
    (isSegment : (outline.stray base)[index]? = some segment) :
    segment = if foldSegment text = "*" then "x" else text := by
  rw [stray, List.getElem?_map, isConstant] at isSegment
  exact (Option.some.inj isSegment).symm

theorem spans_stray (outline : Outline) (base : List String) :
    outline.Spans base (outline.stray base) := by
  have length : (outline.stray base).length = (outline.below base).length := List.length_map _
  exact ⟨Nat.le_of_eq length.symm, fun _ => by omega⟩

/-- **A signature serves what fits it as it is written**, and beyond that just the paths with another
segment where a constant reads as a star. So the paths that it serves are those that fit, just if
none of its constants does, nor a segment of the base. -/
theorem accepts_iff_fits (isRead : read base written = .ok signature)
    (spells : outline.Spells written) :
    (∀ path, outline.Fits base path → signature.accepts path = true) ∧
    (∀ path, signature.accepts path = true → (outline.Fits base path ↔
      ∀ (index : Nat) text segment, (outline.below base)[index]? = some (.constant text) →
        path[index]? = some segment → foldSegment text = "*" → foldSegment segment = "*")) ∧
    ((∀ path, signature.accepts path = true ↔ outline.Fits base path) ↔
      ∀ text, Token.constant text ∈ outline.below base → foldSegment text ≠ "*") := by
  have served : ∀ path, outline.Fits base path → signature.accepts path = true := by
    intro path fits
    refine (accepts_iff_agrees isRead spells).mpr ⟨fits.toSpans, ?_⟩
    intro index text segment isConstant isSegment
    exact Or.inr (fits.constants index text segment isConstant isSegment)
  refine ⟨served, ?_, ?_, ?_⟩
  · intro path accepted
    obtain ⟨spans, agrees⟩ := (accepts_iff_agrees isRead spells).mp accepted
    constructor
    · intro fits index text segment isConstant isSegment isStar
      rw [fits.constants index text segment isConstant isSegment, isStar]
    · intro starred
      refine ⟨spans, fun index text segment isConstant isSegment => ?_⟩
      rcases agrees index text segment isConstant isSegment with isStar | same
      · rw [starred index text segment isConstant isSegment isStar, isStar]
      · exact same
  · intro exact text member isStar
    obtain ⟨index, isConstant⟩ := List.mem_iff_getElem?.mp member
    have accepted : signature.accepts (outline.stray base) = true := by
      refine (accepts_iff_agrees isRead spells).mpr ⟨spans_stray outline base, ?_⟩
      intro index text segment isConstant isSegment
      by_cases isStar : foldSegment text = "*"
      · exact Or.inl isStar
      · rw [getElem?_stray isConstant isSegment, if_neg isStar]
        exact Or.inr rfl
    have isSegment : (outline.stray base)[index]? = some "x" := by
      rw [stray, List.getElem?_map, isConstant]
      simp [isStar]
    have same := ((exact _).mp accepted).constants index text "x" isConstant isSegment
    exact foldSegment_x_ne (same.trans isStar)
  · intro unstarred path
    refine ⟨fun accepted => ?_, served path⟩
    obtain ⟨spans, agrees⟩ := (accepts_iff_agrees isRead spells).mp accepted
    refine ⟨spans, fun index text segment isConstant isSegment => ?_⟩
    have notStar := unstarred text (List.mem_of_getElem? isConstant)
    exact (agrees index text segment isConstant isSegment).resolve_left notStar

/-- The paths that the desk serves are those that fit. -/
theorem desk_serves_what_fits : ∃ signature, read deskBase deskText = .ok signature ∧
    desk.Spells deskText ∧ ∀ path, signature.accepts path = true ↔ desk.Fits deskBase path := by
  have isRead := read_of_spells deskBase desk_spells
  have unstarred : ∀ text ∈ ["api", "Users"], foldSegment text ≠ "*" := by decide +kernel
  refine ⟨_, isRead, desk_spells, (accepts_iff_fits isRead desk_spells).2.2.mpr ?_⟩
  intro text member
  apply unstarred
  simpa [desk, deskBase, below] using member

/-- A signature of one constant, a star that is written as a percent code. -/
def codedStar : Outline := { fixed := [.constant "%2A"], optional := 0, isOpen := false }

theorem codedStar_spells : codedStar.Spells "%2A" := by
  refine ⟨"%2A".toList, ["%2A"], ⟨[], [], by simp, by decide, by decide⟩, ?_, ["%2A"], ?_, rfl⟩
  · exact ⟨by decide, by decide, by decide⟩
  · exact .cons (.constant (by decide) (Token.unmarked_iff.mpr (by decide))) .nil

/-- **A constant star serves whatever comes**, although no other segment is the same. -/
theorem codedStar_serves_more : ∃ signature, read [] "%2A" = .ok signature ∧
    codedStar.Spells "%2A" ∧ signature.accepts ["x"] = true ∧ ¬ codedStar.Fits [] ["x"] := by
  refine ⟨_, read_of_spells [] codedStar_spells, codedStar_spells, by decide +kernel, fun fits => ?_⟩
  have same := fits.constants 0 "%2A" "x" rfl rfl
  have differs : foldSegment "x" ≠ foldSegment "%2A" := by decide +kernel
  exact differs same

end Switchboard.Signature
