import Switchboard.Proofs.Signature.Captures
/-!
What a signature captures of what follows its base.

A signature that is read below a base and whose tokens all capture something serves what follows the
base, whatever it is, if there are as many segments as it asks for. The base itself is not captured.

* `Signature.accepts_below`: which paths below its base such a signature serves.
* `Signature.takes_of_capture?_eq`: what it captures of them.
-/

namespace Switchboard.Signature

open Outline

variable {base more : List String} {written : String} {signature : Signature} {outline : Outline}
  {arguments : PathArguments}

/-- Says that an outline has only tokens that capture, and that these are neither too many for so
many segments nor too few. -/
structure Outline.TakesAny (outline : Outline) (count : Nat) : Prop where
  capturing : ∀ token ∈ outline.fixed, token.isConstant = false
  reaches : outline.fixed.length ≤ count
  ends : outline.isOpen = false → count ≤ outline.fixed.length + outline.optional

/-- **What is captured of what follows a base**: the tokens take the first segments one by one. -/
structure Outline.Takes (outline : Outline) (signature : Signature) (more : List String)
    (arguments : PathArguments) : Prop where
  names : arguments.captures.map Prod.fst
    = signature.captureNames.map fun capture => Text.lower capture.2
  values : arguments.captures.map Prod.snd = (more.take outline.fixed.length).map decodeSegment
  /-- Stars have no names, so all that they take are suffixes. -/
  suffixes : (∀ token ∈ outline.fixed, token = .star) →
    arguments.suffixes = more.map decodeSegment

/-- What is captured has the names that a signature captures under, in order. -/
theorem names_captured {path : List String} (reaches : signature.fixedLength ≤ path.length) :
    (signature.captured path).map (fun item => (item.1, item.2.1)) = signature.captureNames := by
  rw [captured, zipIdx_zip reaches "", List.filterMap_map, List.map_filterMap]
  simp [captureNames, Function.comp_def]

section

variable (given : ∀ segment ∈ base, segment ≠ "")
include given

theorem below_of_given (outline : Outline) :
    outline.below base = base.map Token.constant ++ outline.fixed := by
  have all : base.filter (· ≠ "") = base := List.filter_eq_self.mpr (by simpa using given)
  rw [below, all]

theorem length_below (outline : Outline) :
    (outline.below base).length = base.length + outline.fixed.length := by
  rw [below_of_given given, List.length_append, List.length_map]

/-- **A signature whose tokens all capture** serves what follows its base. -/
theorem accepts_below (isRead : read base written = .ok signature)
    (spells : outline.Spells written) (takes : outline.TakesAny more.length) :
    signature.accepts (base ++ more) = true := by
  have reaches := takes.reaches
  have length := length_below given outline
  refine (accepts_iff_agrees isRead spells).mpr ⟨⟨?_, fun closed => ?_⟩, ?_⟩
  · rw [length, List.length_append]
    omega
  · have ends := takes.ends closed
    rw [length, List.length_append]
    omega
  · intro index text segment isConstant isSegment
    -- The only constants are the segments of the base, and the path begins with these.
    rw [below_of_given given] at isConstant
    by_cases inBase : index < base.length
    · rw [List.getElem?_append_left (by simpa using inBase), List.getElem?_map] at isConstant
      rw [List.getElem?_append_left inBase] at isSegment
      rw [isSegment] at isConstant
      cases isConstant
      exact Or.inr rfl
    · rw [List.getElem?_append_right (by simpa using Nat.le_of_not_lt inBase)] at isConstant
      have capturing := takes.capturing _ (List.mem_of_getElem? isConstant)
      cases capturing

/-- If no constant is chosen, but every token of its own, then these stand right after the base. -/
theorem positions_below {chosen : Nat → Token → Bool}
    (constants : ∀ index text, chosen index (.constant text) = false)
    (all : ∀ index, ∀ token ∈ outline.fixed, chosen index token = true) :
    outline.positions base chosen = List.range' base.length outline.fixed.length := by
  have front : (base.map Token.constant).zipIdx.filter (fun item => chosen item.2 item.1) = [] := by
    rw [List.filter_eq_nil_iff]
    rintro ⟨token, index⟩ member
    obtain ⟨text, -, rfl⟩ := List.mem_map.mp (List.fst_mem_of_mem_zipIdx member)
    simp [constants]
  have back : (outline.fixed.zipIdx base.length).filter (fun item => chosen item.2 item.1)
      = outline.fixed.zipIdx base.length := by
    rw [List.filter_eq_self]
    rintro ⟨token, index⟩ member
    exact all index token (List.fst_mem_of_mem_zipIdx member)
  rw [positions, below_of_given given, List.zipIdx_append, List.filter_append, front,
    List.length_map, Nat.zero_add, back, List.nil_append, List.zipIdx_map_snd]

omit given in
theorem segmentsAt_below {count : Nat} (reaches : count ≤ more.length) :
    segmentsAt (base ++ more) (List.range' base.length count)
      = (more.take count).map decodeSegment := by
  apply List.ext_getElem?
  intro index
  rw [segmentsAt, List.getElem?_map, List.getElem?_map]
  by_cases inside : index < count
  · have position : (List.range' base.length count)[index]? = some (base.length + index) := by
      simp [inside]
    rw [position, List.getElem?_take_of_lt inside, Option.map_some, List.getD_eq_getElem?_getD,
      List.getElem?_append_right (Nat.le_add_right _ _), Nat.add_sub_cancel_left,
      List.getElem?_eq_getElem (Nat.lt_of_lt_of_le inside reaches)]
    rfl
  · have outside : count ≤ index := Nat.le_of_not_lt inside
    have beyond : (List.range' base.length count)[index]? = none :=
      List.getElem?_eq_none (by simpa using outside)
    have untaken : (more.take count)[index]? = none := by
      apply List.getElem?_eq_none
      rw [List.length_take]
      omega
    rw [beyond, untaken]
    rfl

/-- **What a signature captures** of what follows its base. -/
theorem takes_of_capture?_eq (isRead : read base written = .ok signature)
    (spells : outline.Spells written) (takes : outline.TakesAny more.length)
    (served : signature.capture? (base ++ more) = some arguments) :
    outline.Takes signature more arguments := by
  have captures := captures_of_capture?_eq isRead spells served
  have capturing : ∀ index, ∀ token ∈ outline.fixed,
      token.capturesUnder (fun _ _ => true) index = true := by
    intro index token member
    have noConstant := takes.capturing token member
    cases token with
    | constant text => cases noConstant
    | star => rfl
    | named name => rfl
  refine ⟨?_, ?_, fun stars => ?_⟩
  · unfold capture? at served
    split at served
    · rename_i accepted
      rw [accepts, Bool.and_eq_true, Bool.and_eq_true, decide_eq_true_eq] at accepted
      rw [← Option.some.inj served, ← names_captured accepted.1.1, List.map_map, List.map_map]
      rfl
    · cases served
  · rw [captures.once, positions_below given (fun _ _ => rfl) capturing,
      segmentsAt_below takes.reaches]
  · have starred : ∀ index, ∀ token ∈ outline.fixed,
        token.capturesUnder (fun index name => name == Text.decimal index) index = true := by
      intro index token member
      rw [stars token member]
      exact capturesUnder_decimal_iff.mpr (Or.inl rfl)
    rw [captures.suffixes, positions_below given (fun _ _ => rfl) starred,
      segmentsAt_below takes.reaches, beyond, length_below given, List.drop_length_add_append,
      ← List.map_append, List.take_append_drop]

end

end Switchboard.Signature
