import Mathlib.Data.List.DropRight
import Switchboard.Proofs.Text.Form
import Switchboard.Uri.Edit
/-!
Changes of a query.

Pairs are put behind the query as it is written, and taken out of it by writing all others anew. Either
way the decoded pairs change as a list does. Nothing else changes, but for a path without a hierarchy
that ends with blanks: once a query was taken away, and no fragment keeps them apart from the end of
the URI, these blanks are gone, also if a query is put in its place.

* `Uri.queryPairs_addPairs` and `Uri.queryPairs_withoutKey`: what becomes of the pairs.
* `Uri.Leaves`: what becomes of the rest, with `leaves_addPairs` and `leaves_withoutKey`.
* `Path.unpadded_eq_self_iff`: which paths have no blanks to lose.
-/

namespace Switchboard

open Text

/-! ### Blanks at the end of a path -/

namespace Path

/-- A path without the blanks at its end, if it has no hierarchy. -/
def unpadded : Path → Path
  | .segments items => .segments items
  | .literal text => .literal (String.ofList (dropEndWhile (· == ' ') text.toList))

/-- Says whether a path without a hierarchy ends with a blank. -/
def isPadded : Path → Bool
  | .segments _ => false
  | .literal text => text.toList.getLast? == some ' '

/-- **A path keeps its end** just if that is no blank. -/
theorem unpadded_eq_self_iff {path : Path} : path.unpadded = path ↔ path.isPadded = false := by
  cases path with
  | segments items => exact iff_of_true rfl rfl
  | literal text =>
    have kept : dropEndWhile (· == ' ') text.toList = text.toList ↔
        ∀ given : text.toList ≠ [], ¬ ((text.toList.getLast given) == ' ') = true :=
      List.rdropWhile_eq_self_iff
    have same : (Path.literal text).unpadded = .literal text ↔
        dropEndWhile (· == ' ') text.toList = text.toList := by
      rw [unpadded, literal.injEq, ← String.toList_inj, String.toList_ofList]
    rw [same, kept, isPadded]
    cases chars : text.toList with
    | nil => simp
    | cons c rest => simp [List.getLast?_eq_some_getLast]

theorem unpadded_unpadded (path : Path) : path.unpadded.unpadded = path.unpadded := by
  cases path with
  | segments items => rfl
  | literal text =>
    have again : dropEndWhile (· == ' ') (dropEndWhile (· == ' ') text.toList)
        = dropEndWhile (· == ' ') text.toList := List.rdropWhile_idempotent _ _
    rw [unpadded, unpadded, String.toList_ofList, again]

end Path

namespace Uri

/-- What is left of a URI that nothing follows the path of. -/
theorem withoutQuery_eq (uri : Uri) : uri.withoutQuery =
    { uri with
      path := if uri.fragment = none then uri.path.unpadded else uri.path
      query := none } := by
  unfold withoutQuery trimLiteral
  cases isPath : uri.path <;> cases isFragment : uri.fragment <;> simp [Path.unpadded]

/-! ### Pairs of a query -/

/-- The first pair of a query is not set off from what stands before it, any other one is. -/
theorem readPairs_extendQuery_singleton (query : String) (pair : String × String) :
    Form.readPairs (extendQuery query [pair]).toList = Form.readPairs query.toList ++ [pair] := by
  show Form.readPairs ((if query = "" then query else query ++ "&")
    ++ String.ofList (Form.writePair pair)).toList = _
  rw [String.toList_append, String.toList_ofList]
  split
  · rename_i empty
    rw [empty]
    exact Form.readPairs_writePair pair
  · rw [String.toList_append, List.append_assoc]
    exact (Form.readPairs_append _ _).trans (congrArg (_ ++ ·) (Form.readPairs_writePair pair))

/-- **Pairs that are put behind a query** are read after those of the query. -/
theorem readPairs_extendQuery (query : String) (pairs : List (String × String)) :
    Form.readPairs (extendQuery query pairs).toList = Form.readPairs query.toList ++ pairs := by
  induction pairs generalizing query with
  | nil => exact (List.append_nil _).symm
  | cons pair rest ih =>
    show Form.readPairs (extendQuery (extendQuery query [pair]) rest).toList = _
    rw [ih, readPairs_extendQuery_singleton, List.append_assoc, List.singleton_append]

theorem queryPairs_addPairs (uri : Uri) (pairs : List (String × String)) :
    (uri.addPairs pairs).queryPairs = uri.queryPairs ++ pairs := by
  have before : Form.readPairs (uri.query.getD "").toList = uri.queryPairs := by
    unfold queryPairs
    cases uri.query <;> rfl
  show Form.readPairs (extendQuery (uri.query.getD "") pairs).toList = _
  rw [readPairs_extendQuery, before]

theorem queryPairs_withoutQuery (uri : Uri) : uri.withoutQuery.queryPairs = [] := by
  rw [withoutQuery_eq]
  rfl

/-- **A key that is removed** takes its pairs along, and no others. -/
theorem queryPairs_withoutKey (uri : Uri) (key : String) : (uri.withoutKey key).queryPairs
    = uri.queryPairs.filter fun pair => pair.1 ≠ key := by
  unfold withoutKey
  split
  · rename_i none
    rw [queryPairs_withoutQuery, none]
  · rw [queryPairs_addPairs, queryPairs_withoutQuery, List.nil_append]

/-! ### The rest of a URI -/

/-- The path of a URI once the query was taken away, or was not. -/
def pathAfter (removed : Bool) (uri : Uri) : Path :=
  if removed = true ∧ uri.fragment = none then uri.path.unpadded else uri.path

/-- **Says that a URI is what changes of its query left of another one**: all but the query is as it
was, and the path is if the query was not taken away. -/
structure Leaves (removed : Bool) (uri next : Uri) : Prop where
  rest : next = { uri with path := next.path, query := next.query }
  path : next.path = uri.pathAfter removed

theorem Leaves.refl (uri : Uri) : Leaves false uri uri := ⟨rfl, rfl⟩

theorem Leaves.fragment_eq {removed : Bool} {uri next : Uri} (leaves : Leaves removed uri next) :
    next.fragment = uri.fragment := by
  rw [leaves.rest]

/-- A second change finds no more blanks at the end of the path than the first one left. -/
theorem Leaves.trans {removed removedToo : Bool} {uri next last : Uri}
    (first : Leaves removed uri next) (second : Leaves removedToo next last) :
    Leaves (removed || removedToo) uri last where
  rest := by
    rw [second.rest, first.rest]
  path := by
    rw [second.path, pathAfter, first.fragment_eq, first.path, pathAfter, pathAfter]
    by_cases noFragment : uri.fragment = none
    · cases removed <;> cases removedToo <;> simp [noFragment, Path.unpadded_unpadded]
    · simp [noFragment]

theorem leaves_addPairs (uri : Uri) (pairs : List (String × String)) :
    Leaves false uri (uri.addPairs pairs) := ⟨rfl, rfl⟩

theorem leaves_withoutQuery (uri : Uri) : Leaves true uri uri.withoutQuery := by
  rw [withoutQuery_eq]
  exact ⟨rfl, by simp [pathAfter]⟩

theorem leaves_withoutKey (uri : Uri) (key : String) : Leaves true uri (uri.withoutKey key) := by
  unfold withoutKey
  split
  · exact leaves_withoutQuery uri
  · exact (leaves_withoutQuery uri).trans (leaves_addPairs _ _)

/-- **Which paths stay** when the query is taken away. -/
theorem pathAfter_eq_self_iff {removed : Bool} {uri : Uri} : uri.pathAfter removed = uri.path ↔
    (removed = true → uri.fragment = none → uri.path.isPadded = false) := by
  unfold pathAfter
  split
  · rename_i lost
    rw [Path.unpadded_eq_self_iff]
    exact ⟨fun kept _ _ => kept, fun kept => kept lost.1 lost.2⟩
  · rename_i stays
    exact iff_of_true rfl fun removed noFragment => absurd ⟨removed, noFragment⟩ stays

end Uri

end Switchboard
