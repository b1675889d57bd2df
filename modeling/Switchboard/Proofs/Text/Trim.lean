import Mathlib.Data.List.TakeWhile
import Switchboard.Proofs.Text.Cuts
/-!
Texts without outer blanks.

A text is what is left when it is trimmed, between blanks. So blanks around a text make no
difference once it is trimmed, and neither do they if it is cut first and its pieces are trimmed, as
long as the separator is no blank.

* `Text.exists_trimChars`: what trimming leaves and what it takes.
* `Text.map_trim_split` and `Text.map_trim_splitOnce`: a text that is cut into trimmed pieces may
  be trimmed before.
-/

namespace Switchboard.Text

/-- Says that a text is nothing but blanks. -/
def AllBlank (text : List Char) : Prop := ∀ c ∈ text, isBlank c = true

section Trimming

variable {front text back : List Char}

theorem dropEndWhile_append_of_allBlank (blank : AllBlank back) (text : List Char) :
    dropEndWhile isBlank (text ++ back) = dropEndWhile isBlank text := by
  have blankToo : ∀ c ∈ back.reverse, isBlank c = true := fun c member =>
    blank c (List.mem_reverse.mp member)
  rw [dropEndWhile, List.reverse_append, List.dropWhile_append_of_pos blankToo, dropEndWhile]

/-- **Blanks around a text** make no difference once it is trimmed. -/
theorem trimChars_append (blankFront : AllBlank front) (blankBack : AllBlank back)
    (text : List Char) : trimChars (front ++ text ++ back) = trimChars text := by
  rw [trimChars, List.append_assoc, List.dropWhile_append_of_pos blankFront, List.dropWhile_append,
    trimChars]
  split
  · rename_i nothing
    rw [List.isEmpty_iff.mp nothing, List.dropWhile_eq_nil_iff.mpr blankBack]
  · exact dropEndWhile_append_of_allBlank blankBack _

theorem trimChars_front (blank : AllBlank front) (text : List Char) :
    trimChars (front ++ text) = trimChars text := by
  simpa using trimChars_append blank (nofun : AllBlank []) text

theorem trimChars_back (blank : AllBlank back) (text : List Char) :
    trimChars (text ++ back) = trimChars text :=
  trimChars_append (nofun : AllBlank []) blank text

/-- A text is what trimming leaves of it, between blanks. -/
theorem exists_trimChars (text : List Char) : ∃ front back, AllBlank front ∧ AllBlank back ∧
    text = front ++ trimChars text ++ back := by
  refine ⟨text.takeWhile isBlank, ((text.dropWhile isBlank).reverse.takeWhile isBlank).reverse,
    fun c member => List.mem_takeWhile_imp member,
    fun c member => List.mem_takeWhile_imp (List.mem_reverse.mp member), ?_⟩
  rw [trimChars, dropEndWhile, List.append_assoc, ← List.reverse_append,
    List.takeWhile_append_dropWhile, List.reverse_reverse, List.takeWhile_append_dropWhile]

/-- Nothing is trimmed twice. -/
theorem trimChars_trimChars (text : List Char) : trimChars (trimChars text) = trimChars text := by
  obtain ⟨front, back, blankFront, blankBack, isText⟩ := exists_trimChars text
  rw [← trimChars_append blankFront blankBack (trimChars text), ← isText]

theorem trim_trim (text : String) : trim (trim text) = trim text := by
  rw [trim, trim, String.toList_ofList, trimChars_trimChars]

/-- A text that neither begins nor ends with junk is left as it is. -/
theorem dropEndWhile_of_ends {junk : Char → Bool} (first : ∀ c ∈ text.head?, junk c = false)
    (last : ∀ c ∈ text.getLast?, junk c = false) :
    dropEndWhile junk (text.dropWhile junk) = text := by
  have unchanged : ∀ chars : List Char, (∀ c ∈ chars.head?, junk c = false) →
      chars.dropWhile junk = chars := by
    intro chars solid
    cases chars with
    | nil => rfl
    | cons c rest => simp [solid c rfl]
  rw [dropEndWhile, unchanged text first, unchanged text.reverse, List.reverse_reverse]
  rwa [List.head?_reverse]

/-- What trimming leaves was there before. -/
theorem mem_of_mem_trim {text : String} {c : Char} (member : c ∈ (trim text).toList) :
    c ∈ text.toList := by
  obtain ⟨front, back, -, -, isText⟩ := exists_trimChars text.toList
  rw [trim, String.toList_ofList] at member
  rw [isText]
  exact List.mem_append_left _ (List.mem_append_right _ member)

/-- A text without blanks at its ends is not trimmed. -/
theorem trimChars_of_ends (first : ∀ c ∈ text.head?, isBlank c = false)
    (last : ∀ c ∈ text.getLast?, isBlank c = false) : trimChars text = text :=
  dropEndWhile_of_ends first last

theorem trim_blank (text : String) : trim (" " ++ text) = trim text := by
  have blank : AllBlank [' '] := by simp [AllBlank, isBlank]
  rw [trim, String.toList_append, show " ".toList = [' '] from rfl, trimChars_front blank, trim]

end Trimming

/-! ### Cuts -/

section Cuts

variable {c : Char} {front text back : List Char}

theorem not_mem_of_allBlank (solid : isBlank c = false) (blank : AllBlank text) : c ∉ text := by
  intro member
  rw [blank c member] at solid
  cases solid

/-- What goes before a text goes before its first piece. -/
theorem splitOn_front (free : c ∉ front) (text : List Char) : ∃ first others,
    splitOn c text = first :: others ∧ splitOn c (front ++ text) = (front ++ first) :: others := by
  induction front with
  | nil =>
    obtain ⟨first, others, cut⟩ := List.exists_cons_of_ne_nil (splitOn_ne_nil c text)
    exact ⟨first, others, cut, cut⟩
  | cons d rest ih =>
    rw [List.mem_cons, not_or] at free
    obtain ⟨first, others, cut, cutToo⟩ := ih free.2
    exact ⟨first, others, cut, by simp [splitOn, Ne.symm free.1, cutToo]⟩

/-- What goes behind a text goes behind its last piece. -/
theorem splitOn_back (free : c ∉ back) (text : List Char) : ∃ others last,
    splitOn c text = others ++ [last] ∧ splitOn c (text ++ back) = others ++ [last ++ back] := by
  induction text with
  | nil => exact ⟨[], [], rfl, splitOn_of_not_mem free⟩
  | cons d rest ih =>
    obtain ⟨others, last, cut, cutToo⟩ := ih
    by_cases same : d = c
    · rw [same, List.cons_append, splitOn_cons_sep, splitOn_cons_sep, cut, cutToo]
      exact ⟨[] :: others, last, rfl, rfl⟩
    · cases others with
      | nil => exact ⟨[], d :: last, by simp [splitOn, same, cut], by simp [splitOn, same, cutToo]⟩
      | cons first more =>
        exact ⟨(d :: first) :: more, last, by simp [splitOn, same, cut],
          by simp [splitOn, same, cutToo]⟩

theorem cutAt_front (free : c ∉ front) (text : List Char) :
    cutAt c (front ++ text)
      = (cutAt c text).map fun (before, after) => (front ++ before, after) := by
  induction front with
  | nil => cases cut : cutAt c text <;> simp [cut]
  | cons d rest ih =>
    rw [List.mem_cons, not_or] at free
    have differs : (d == c) = false := beq_eq_false_iff_ne.mpr (Ne.symm free.1)
    rw [List.cons_append, cutAt, differs, ih free.2]
    cases cutAt c text <;> rfl

theorem cutAt_back (free : c ∉ back) (text : List Char) :
    cutAt c (text ++ back) = (cutAt c text).map fun (before, after) => (before, after ++ back) := by
  induction text with
  | nil => simpa [cutAt] using cutAt_front free []
  | cons d rest ih =>
    rw [List.cons_append, cutAt, cutAt, ih]
    split
    · rfl
    · cases cutAt c rest <;> rfl

variable (solid : isBlank c = false)
include solid

theorem map_trimChars_splitOn_append (blankFront : AllBlank front) (blankBack : AllBlank back)
    (text : List Char) :
    (splitOn c (front ++ text ++ back)).map trimChars = (splitOn c text).map trimChars := by
  obtain ⟨others, last, cut, cutToo⟩ :=
    splitOn_back (not_mem_of_allBlank solid blankBack) (front ++ text)
  obtain ⟨first, more, inner, innerToo⟩ :=
    splitOn_front (not_mem_of_allBlank solid blankFront) text
  calc (splitOn c (front ++ text ++ back)).map trimChars
      = (splitOn c (front ++ text)).map trimChars := by
        rw [cutToo, cut, List.map_append, List.map_append, List.map_singleton, List.map_singleton,
          trimChars_back blankBack]
    _ = (splitOn c text).map trimChars := by
        rw [innerToo, inner, List.map_cons, List.map_cons, trimChars_front blankFront]

/-- **A text that is cut into trimmed pieces** may be trimmed before. -/
theorem map_trim_split (text : String) :
    (split c (trim text)).map trim = (split c text).map trim := by
  have trims : ∀ pieces : List (List Char),
      (pieces.map String.ofList).map trim = (pieces.map trimChars).map String.ofList := by
    intro pieces
    simp [trim]
  obtain ⟨front, back, blankFront, blankBack, isText⟩ := exists_trimChars text.toList
  have same := map_trimChars_splitOn_append solid blankFront blankBack (trimChars text.toList)
  rw [← isText] at same
  rw [split, split, trims, trims, same, trim, String.toList_ofList]

/-- The same for a text that is cut once. -/
theorem map_trim_splitOnce (text : String) :
    (splitOnce c (trim text)).map (Prod.map trim trim)
      = (splitOnce c text).map (Prod.map trim trim) := by
  obtain ⟨front, back, blankFront, blankBack, isText⟩ := exists_trimChars text.toList
  have freeBack := not_mem_of_allBlank solid blankBack
  have freeFront := not_mem_of_allBlank solid blankFront
  have cut : cutAt c text.toList = (cutAt c (trimChars text.toList)).map
      fun (before, after) => (front ++ before, after ++ back) := by
    have whole := cutAt_back freeBack (front ++ trimChars text.toList)
    rw [← isText, cutAt_front freeFront, Option.map_map] at whole
    exact whole
  rw [splitOnce, splitOnce, trim, String.toList_ofList, cut]
  cases cutAt c (trimChars text.toList) with
  | none => rfl
  | some parts => simp [trim, trimChars_front blankFront, trimChars_back blankBack]

end Cuts

end Switchboard.Text
