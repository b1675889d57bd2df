import Switchboard.Text.Basic
/-!
Cuts at every occurrence of a character, and at the first one.

* `Text.splitOn_eq_iff`: the pieces of a cut are the only ones that hold no separator and are the
  text when they are joined.
* `Text.cutAt_append`: a text is cut at its first separator.
-/

namespace Switchboard.Text

variable {c : Char} {piece text : List Char} {pieces : List (List Char)}

theorem splitOn_cons_sep (c : Char) (rest : List Char) :
    splitOn c (c :: rest) = [] :: splitOn c rest := by
  simp [splitOn]

/-- A text without separators is one piece. -/
theorem splitOn_of_not_mem (free : c ∉ piece) : splitOn c piece = [piece] := by
  induction piece with
  | nil => rfl
  | cons d rest ih =>
    have differs : ¬ d = c := fun same => free (same ▸ List.mem_cons_self)
    simp [splitOn, differs, ih fun member => free (List.mem_cons_of_mem _ member)]

/-- What stands before a separator and what stands behind it are cut each by itself. -/
theorem splitOn_append_sep (front rest : List Char) :
    splitOn c (front ++ c :: rest) = splitOn c front ++ splitOn c rest := by
  induction front with
  | nil => exact splitOn_cons_sep c rest
  | cons d others ih =>
    by_cases same : d = c
    · rw [same, List.cons_append, splitOn_cons_sep, splitOn_cons_sep, ih]
      rfl
    · obtain ⟨first, more, cut⟩ := List.exists_cons_of_ne_nil (splitOn_ne_nil c others)
      rw [cut] at ih
      simp [splitOn, same, ih, cut]

/-- The first separator ends the first piece. -/
theorem splitOn_append (free : c ∉ piece) (rest : List Char) :
    splitOn c (piece ++ c :: rest) = piece :: splitOn c rest := by
  rw [splitOn_append_sep, splitOn_of_not_mem free]
  rfl

/-- Pieces that hold no separator are found again once they are joined. -/
theorem splitOn_joinWith (nonempty : pieces ≠ []) (free : ∀ piece ∈ pieces, c ∉ piece) :
    splitOn c (joinWith c pieces) = pieces := by
  induction pieces with
  | nil => exact absurd rfl nonempty
  | cons piece others ih =>
    obtain ⟨pieceFree, othersFree⟩ := List.forall_mem_cons.mp free
    cases others with
    | nil => exact splitOn_of_not_mem pieceFree
    | cons next rest =>
      show splitOn c (piece ++ c :: joinWith c (next :: rest)) = _
      rw [splitOn_append pieceFree, ih (List.cons_ne_nil _ _) othersFree]

/-- What is joined holds separators and what the pieces hold. -/
theorem of_mem_joinWith {d : Char} (member : d ∈ joinWith c pieces) :
    d = c ∨ ∃ piece ∈ pieces, d ∈ piece := by
  induction pieces with
  | nil => cases member
  | cons piece others ih =>
    cases others with
    | nil => exact Or.inr ⟨piece, List.mem_cons_self, member⟩
    | cons next rest =>
      have parts : d ∈ piece ++ c :: joinWith c (next :: rest) := member
      rcases List.mem_append.mp parts with inPiece | inRest
      · exact Or.inr ⟨piece, List.mem_cons_self, inPiece⟩
      · rcases List.mem_cons.mp inRest with isSep | later
        · exact Or.inl isSep
        · rcases ih later with isSep | ⟨other, isOther, inOther⟩
          · exact Or.inl isSep
          · exact Or.inr ⟨other, List.mem_cons_of_mem _ isOther, inOther⟩

/-- What is joined ends as the last piece does. -/
theorem getLast?_joinWith {last : List Char} (given : last ≠ []) :
    (joinWith c (pieces ++ [last])).getLast? = last.getLast? := by
  induction pieces with
  | nil => rfl
  | cons first rest ih =>
    obtain ⟨next, others, more⟩ :=
      List.exists_cons_of_ne_nil (List.append_ne_nil_of_right_ne_nil rest (List.cons_ne_nil last []))
    rw [List.cons_append, more]
    rw [more] at ih
    show (first ++ c :: joinWith c (next :: others)).getLast? = _
    rw [List.getLast?_append, List.getLast?_cons, ih, List.getLast?_eq_some_getLast given]
    rfl

theorem mem_joinWith {d : Char} (member : piece ∈ pieces) (inPiece : d ∈ piece) :
    d ∈ joinWith c pieces := by
  induction pieces with
  | nil => cases member
  | cons first others ih =>
    cases others with
    | nil =>
      obtain rfl := List.mem_singleton.mp member
      exact inPiece
    | cons next rest =>
      show d ∈ first ++ c :: joinWith c (next :: rest)
      rcases List.mem_cons.mp member with rfl | later
      · exact List.mem_append_left _ inPiece
      · exact List.mem_append_right _ (List.mem_cons_of_mem c (ih later))

/-- What a piece of a cut holds, the text does. -/
theorem mem_of_mem_splitOn {d : Char} (member : piece ∈ splitOn c text) (inPiece : d ∈ piece) :
    d ∈ text := by
  rw [← join_splitOn c text]
  exact mem_joinWith member inPiece

/-- No piece of a cut holds a separator. -/
theorem not_mem_of_mem_splitOn (member : piece ∈ splitOn c text) : c ∉ piece := by
  induction text generalizing piece with
  | nil => simp_all [splitOn]
  | cons d rest ih =>
    unfold splitOn at member
    by_cases isSep : d = c
    · rw [if_pos (beq_iff_eq.mpr isSep)] at member
      rcases List.mem_cons.mp member with rfl | later
      · exact List.not_mem_nil
      · exact ih later
    · rw [if_neg (by simpa using isSep)] at member
      split at member
      · rename_i none
        exact absurd none (splitOn_ne_nil c rest)
      · rename_i first others cut
        rcases List.mem_cons.mp member with rfl | later
        · have free : c ∉ first := ih (cut ▸ List.mem_cons_self)
          simp [free, Ne.symm isSep]
        · exact ih (cut ▸ List.mem_cons_of_mem _ later)

/-- **The pieces of a cut** are the only ones that hold no separator and make up the text. -/
theorem splitOn_eq_iff : splitOn c text = pieces ↔
    pieces ≠ [] ∧ (∀ piece ∈ pieces, c ∉ piece) ∧ joinWith c pieces = text := by
  constructor
  · rintro rfl
    exact ⟨splitOn_ne_nil c text, fun _ member => not_mem_of_mem_splitOn member,
      join_splitOn c text⟩
  · rintro ⟨nonempty, free, rfl⟩
    exact splitOn_joinWith nonempty free

/-! ### The first occurrence -/

/-- The first separator is where a text is cut. -/
theorem cutAt_append (free : c ∉ piece) (rest : List Char) :
    cutAt c (piece ++ c :: rest) = some (piece, rest) := by
  induction piece with
  | nil => simp [cutAt]
  | cons d others ih =>
    rw [List.mem_cons, not_or] at free
    have differs : (d == c) = false := beq_eq_false_iff_ne.mpr (Ne.symm free.1)
    rw [List.cons_append, cutAt, differs, ih free.2]
    rfl

/-- A text with a separator is what stands before the first one, this and the rest. -/
theorem exists_takeWhile_append (c : Char) (piece rest : List Char) :
    ∃ after, piece ++ c :: rest = piece.takeWhile (· != c) ++ c :: after := by
  induction piece with
  | nil => exact ⟨rest, rfl⟩
  | cons d others ih =>
    by_cases same : d = c
    · exact ⟨others ++ c :: rest, by simp [same]⟩
    · obtain ⟨after, split⟩ := ih
      exact ⟨after, by simp [same, split]⟩

end Switchboard.Text
