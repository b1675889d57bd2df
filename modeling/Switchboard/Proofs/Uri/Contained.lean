import Switchboard.Proofs.Uri.Appended
/-!
Paths that are added below others.

Texts that are added to a path stay below it unless two dots among them lead out of it. What is left
in this way is there again only if the texts lead down by the same segments at once.

* `Uri.append_contained_iff`: when the segments of a URI stand in front once texts were added, and
  which texts stay below every URI.
* `Uri.dots_leave`: texts that do not.
-/

namespace Switchboard.Uri

open Text

/-! ### Texts that stay level -/

/-- Says whether a text leads down. -/
def isStep (name : String) : Bool := decide (name ≠ ".." ∧ name ≠ ".")

/-- **Says that texts never lead above where they start**: up to each of them there are no more that
lead up than that lead down. -/
def Level (names : List String) : Prop :=
  ∀ front, front <+: names → front.count ".." ≤ front.countP isStep

namespace Way

/-- What leads up is made up for by what leads down, or by how far up it leads. -/
theorem balance (names : List String) :
    (along names).down.length + names.count ".." = (along names).up + names.countP isStep := by
  induction names using List.reverseRecOn with
  | nil => rfl
  | append_singleton names name ih =>
    rw [along_concat, step, List.count_append, List.countP_append]
    by_cases isAbove : name = ".."
    · subst isAbove
      have noStep : isStep ".." = false := by decide
      by_cases bottom : (along names).down = []
      · rw [bottom, List.length_nil] at ih
        simp [bottom, noStep]
        omega
      · have given := List.length_pos_iff.mpr bottom
        simp [bottom, noStep]
        omega
    · rw [if_neg isAbove]
      by_cases isHere : name = "."
      · subst isHere
        have noStep : isStep "." = false := by decide
        simp [noStep]
        omega
      · have isStep : isStep name = true := decide_eq_true ⟨isAbove, isHere⟩
        simp [isAbove, isHere, isStep]
        omega

/-- **A way does not lead up** just if its texts stay level. -/
theorem up_eq_zero_iff {names : List String} : (along names).up = 0 ↔ Level names := by
  induction names using List.reverseRecOn with
  | nil =>
    refine ⟨fun _ front isFront => ?_, fun _ => rfl⟩
    rw [List.prefix_nil.mp isFront]
    exact Nat.le_refl 0
  | append_singleton names name ih =>
    have whole := balance (names ++ [name])
    have before := balance names
    constructor
    · intro level front isFront
      rcases List.prefix_concat_iff.mp isFront with rfl | earlier
      · omega
      · refine ih.mp ?_ front earlier
        rw [along_concat, step] at level
        split at level
        · split at level
          · exact absurd level (Nat.succ_ne_zero _)
          · exact level
        · split at level <;> exact level
    · intro level
      have ends := level _ (List.prefix_refl _)
      have early := ih.mpr fun front isFront => level front (isFront.trans (List.prefix_append _ _))
      rw [along_concat, step] at whole ⊢
      split
      · split
        · rename_i isAbove bottom
          -- With nothing left below, one more step up would be one too many.
          rw [if_pos isAbove, if_pos bottom, early, bottom] at whole
          simp only [List.length_nil] at whole
          omega
        · exact early
      · split <;> exact early

end Way

/-! ### Drive letters -/

/-- A drive letter in the first place is never left. -/
theorem exists_climb_cons {first : String} (drive : isDriveLetter first = true) (up : Nat)
    (rest : List String) : ∃ kept, climb up (first :: rest) = first :: kept := by
  induction up with
  | zero => exact ⟨rest, rfl⟩
  | succ up ih =>
    obtain ⟨kept, stays⟩ := ih
    rw [climb, stays]
    rcases List.eq_nil_or_concat kept with rfl | ⟨others, last, rfl⟩
    · exact ⟨[], by simp [dropLastSegment, drive]⟩
    · rw [List.concat_eq_append, ← List.cons_append, dropLastSegment, List.getLast?_concat,
        List.dropLast_concat]
      by_cases other : isDriveLetter last = true
      · exact ⟨others ++ [last], by simp [other]⟩
      · exact ⟨others, by simp [other]⟩

/-! ### Containment -/

/-- What texts leave of the segments of a URI on their way. -/
def leftBehind (uri : Uri) (texts : List String) : List String :=
  uri.segments.drop (climb (Way.of texts).up uri.segments).length

theorem climb_append_leftBehind (uri : Uri) (texts : List String) :
    climb (Way.of texts).up uri.segments ++ uri.leftBehind texts = uri.segments :=
  List.prefix_iff_eq_append.mp (climb_isPrefix _ _)

section

variable {uri : Uri} (made : Made uri) (hierarchy : uri.isLiteral = false)
include made hierarchy

/-- What there is once texts were added has no dots. -/
theorem proper_of_mem_append {texts : List String} {segment : String}
    (member : segment ∈ (uri.append texts).segments) : isProper segment = true := by
  have ofPlaced : ∀ {items : List String},
      segment ∈ items.foldl (place (decide (uri.scheme = "file")) false) [] →
      isProper segment = true := by
    intro items placed
    rcases of_mem_foldl_place placed with absent | ⟨-, proper⟩ | drive
    · cases absent
    · exact proper
    · exact isProper_of_isDriveLetter drive
  rw [segments_append_place made hierarchy, ← List.foldl_append] at member
  exact ofPlaced (List.mem_filter.mp member).1

/-- **Segments that stand in front** once texts were added are such that last. -/
theorem lasting_of_isPrefix {texts : List String}
    (contained : uri.segments <+: (uri.append texts).segments) :
    Lasting (decide (uri.scheme = "file")) uri.segments := by
  have proper : ∀ segment ∈ uri.segments, isProper segment = true := fun segment member =>
    proper_of_mem_append made hierarchy (contained.subset member)
  refine ⟨proper, fun isFile first isFirst drive => ?_⟩
  obtain ⟨rest, segments⟩ := List.head?_eq_some_iff.mp isFirst
  -- The drive letter is written with a colon, and then it stays in front.
  have written : (uri.append []).segments = colonDrive first :: rest := by
    have nothing : (piecesOf []).map encodeSegment = [] := rfl
    have given : ∀ segment ∈ rest, segment ≠ "" := fun segment member =>
      (of_mem_segments (segments ▸ List.mem_cons_of_mem first member)).1
    rw [segments_append_place made hierarchy, nothing, List.foldl_nil, segments,
      foldl_place_cons (segments ▸ proper), if_pos (by simpa using ⟨of_decide_eq_true isFile, drive⟩),
      List.filter_cons_of_pos (by simpa using colonDrive_ne_empty first)]
    exact congrArg _ (List.filter_eq_self.mpr (by simpa using given))
  obtain ⟨kept, stays⟩ := exists_climb_cons (isDriveLetter_colonDrive drive) (Way.of texts).up rest
  rw [segments_append_way made hierarchy, written, Way.from, stays, segments] at contained
  exact (colonDrive_eq_self_iff drive).mp (List.cons_prefix_cons.mp contained).1.symm

/-- **The segments of a URI stand in front** once texts were added, just if they last and the texts
lead down again by what they have left. -/
theorem isPrefix_append_iff (texts : List String) :
    uri.segments <+: (uri.append texts).segments ↔
      Lasting (decide (uri.scheme = "file")) uri.segments ∧
        uri.leftBehind texts <+: (Way.of texts).down.map encodeSegment := by
  have returns : Lasting (decide (uri.scheme = "file")) uri.segments →
      (uri.segments <+: (uri.append texts).segments ↔
        uri.leftBehind texts <+: (Way.of texts).down.map encodeSegment) := by
    intro lasting
    rw [segments_append_way made hierarchy, (segments_append_nil_iff made hierarchy).mpr lasting,
      Way.from]
    nth_rewrite 1 [← climb_append_leftBehind uri texts]
    exact List.prefix_append_right_inj _
  constructor
  · intro contained
    have lasting := lasting_of_isPrefix made hierarchy contained
    exact ⟨lasting, (returns lasting).mp contained⟩
  · rintro ⟨lasting, again⟩
    exact (returns lasting).mpr again

end

/-- A URI of which nobody can name the only segment by a text. -/
def tildeUri : Uri :=
  { scheme := "http", dotted := false, path := .segments ["~"], query := none, fragment := none
    authority := some { username := "", password := "", host := "h", port := none } }

theorem tildeUri_made : Made tildeUri :=
  .parse (show parse "http://h/~" = .ok tildeUri by decide +kernel)

theorem climb_tilde (up : Nat) : climb (up + 1) ["~"] = [] := by
  induction up with
  | zero => decide
  | succ up ih =>
    rw [climb, ih]
    rfl

/-- Texts that lead up leave that segment, and none lead down to it again. -/
theorem up_eq_zero_of_tildeUri {texts : List String}
    (contained : tildeUri.segments <+: (tildeUri.append texts).segments) :
    (Way.of texts).up = 0 := by
  have segments : tildeUri.segments = ["~"] := by decide
  obtain ⟨-, again⟩ := (isPrefix_append_iff tildeUri_made rfl texts).mp contained
  rw [leftBehind, segments] at again
  cases ways : (Way.of texts).up with
  | zero => rfl
  | succ up =>
    rw [ways, climb_tilde] at again
    obtain ⟨name, -, same⟩ := List.mem_map.mp (again.subset (List.mem_singleton_self "~"))
    have inName : '~' ∈ (encodeSegment name).toList := by
      rw [same]
      decide
    have coded : isCoded '~' = true := isCoded_of_mem inName
    exact absurd coded (by decide)

/-- **Texts that are added to a path stay below it** if its segments last, as they do outside files,
and the texts lead down again by what they have left of them, and only then. The texts that stay below
every path outside files are those that stay level. -/
theorem append_contained_iff (texts : List String) :
    (∀ {uri : Uri}, Made uri → uri.isLiteral = false →
      (uri.segments <+: (uri.append texts).segments ↔
        Lasting (decide (uri.scheme = "file")) uri.segments ∧
          uri.leftBehind texts <+: (Way.of texts).down.map encodeSegment)) ∧
    ((∀ uri : Uri, Made uri → uri.isLiteral = false → uri.scheme ≠ "file" →
        uri.segments <+: (uri.append texts).segments) ↔ Level (piecesOf texts)) := by
  refine ⟨fun made hierarchy => isPrefix_append_iff made hierarchy texts, fun always => ?_, ?_⟩
  · exact Way.up_eq_zero_iff.mp
      (up_eq_zero_of_tildeUri (always tildeUri tildeUri_made rfl (by decide)))
  · intro level uri made hierarchy noFile
    have stays : uri.leftBehind texts = [] := by
      rw [leftBehind, Way.of, Way.up_eq_zero_iff.mpr level]
      exact List.drop_length
    refine (isPrefix_append_iff made hierarchy texts).mpr
      ⟨lasting_segments made hierarchy noFile, ?_⟩
    rw [stays]
    exact List.nil_prefix

/-! ### A desk of users -/

/-- A desk where users are asked for. -/
def usersUri : Uri :=
  { scheme := "http", dotted := false, path := .segments ["api", "users"], query := none
    fragment := none
    authority := some { username := "", password := "", host := "h", port := none } }

theorem usersUri_made : Made usersUri :=
  .parse (show parse "http://h/api/users" = .ok usersUri by decide +kernel)

/-- Texts that leave the users and come back to them stay below them; texts that stay level stay
below everything. -/
theorem users_contained : Made usersUri ∧ usersUri.isLiteral = false ∧
    usersUri.segments = ["api", "users"] ∧
    (usersUri.append ["7/..", "..", "users", "8"]).segments = ["api", "users", "8"] ∧
    usersUri.segments <+: (usersUri.append ["7/..", "..", "users", "8"]).segments ∧
    usersUri.segments <+: (usersUri.append ["7", "x/../y", ".."]).segments := by
  have leaves : usersUri.leftBehind ["7/..", "..", "users", "8"] = ["users"] := by decide +kernel
  have again : (Way.of ["7/..", "..", "users", "8"]).down = ["users", "8"] := by decide +kernel
  have lasting := lasting_segments usersUri_made rfl (by decide)
  have level : Level (piecesOf ["7", "x/../y", ".."]) :=
    Way.up_eq_zero_iff.mp (by decide +kernel)
  refine ⟨usersUri_made, rfl, by decide +kernel, by decide +kernel, ?_, ?_⟩
  · refine ((append_contained_iff _).1 usersUri_made rfl).mpr ⟨lasting, ?_⟩
    rw [leaves, again]
    exact ⟨["8"].map encodeSegment, by decide +kernel⟩
  · exact (append_contained_iff _).2.mpr level usersUri usersUri_made rfl (by decide)

/-- **Two dots lead out**: whoever is asked for by two dots and a name is looked for beside the
users. -/
theorem dots_leave : Made usersUri ∧ usersUri.isLiteral = false ∧
    usersUri.segments = ["api", "users"] ∧
    (usersUri.append ["..", "admin"]).segments = ["api", "admin"] ∧
    ¬ usersUri.segments <+: (usersUri.append ["..", "admin"]).segments := by
  have before : usersUri.segments = ["api", "users"] := by decide +kernel
  have after : (usersUri.append ["..", "admin"]).segments = ["api", "admin"] := by decide +kernel
  refine ⟨usersUri_made, rfl, before, after, ?_⟩
  rw [before, after]
  decide

end Switchboard.Uri
