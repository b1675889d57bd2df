import Switchboard.Headers
/-!
The values of a name in headers.

Names are compared without regard to the case of letters. A name that is given a value has this one
alone; a name that has values in headers that are merged in has these, in their order. Every other
name keeps what it has.

* `Headers.getAll_insert` and `Headers.getAll_insert_of_differs`: values after one name was given one.
* `Headers.getAll_merge`: values after a merge.
-/

namespace Switchboard.Headers

variable {headers : Headers} {name other : String}

theorem get?_eq_head? (headers : Headers) (name : String) :
    headers.get? name = (headers.getAll name).head? := by
  rw [get?, getAll, List.head?_map, List.head?_filter]

theorem contains_eq_false_iff : headers.contains name = false ↔ headers.getAll name = [] := by
  simp [contains, getAll]

theorem contains_iff : headers.contains name = true ↔ headers.getAll name ≠ [] := by
  rw [← Bool.not_eq_false, Ne, contains_eq_false_iff]

/-- Names that differ in the case of letters only name the same entries. -/
theorem isNamed_congr (same : Text.sameName name other = true) :
    Header.isNamed name = Header.isNamed other := by
  funext header
  rw [Bool.eq_iff_iff, Header.isNamed, Header.isNamed, Text.sameName_iff, Text.sameName_iff,
    (Text.sameName_iff _ _).mp same]

theorem getAll_congr (same : Text.sameName name other = true) (headers : Headers) :
    headers.getAll name = headers.getAll other := by
  rw [getAll, getAll, isNamed_congr same]

theorem contains_congr (same : Text.sameName name other = true) (headers : Headers) :
    headers.contains name = headers.contains other := by
  rw [contains, contains, isNamed_congr same]

/-! ### One entry more -/

theorem getAll_cons (header : Header) (rest : List Header) (name : String) :
    getAll ⟨header :: rest⟩ name
      = (if header.isNamed name then [header.value] else []) ++ getAll ⟨rest⟩ name := by
  unfold getAll
  rw [List.filter_cons]
  split <;> rfl

theorem getAll_append (headers : Headers) (other value name : String) :
    (headers.append other value).getAll name
      = headers.getAll name ++ if Text.sameName other name then [value] else [] := by
  have last := getAll_cons ⟨other, value⟩ [] name
  rw [show getAll ⟨[]⟩ name = [] from rfl, List.append_nil] at last
  have cut : (headers.append other value).getAll name
      = headers.getAll name ++ getAll ⟨[⟨other, value⟩]⟩ name := by
    rw [getAll, append, List.filter_append, List.map_append]
    rfl
  rw [cut, last]
  rfl

/-! ### Giving a name one value -/

/-- An entry has one name only. -/
theorem isNamed_of_differs (differs : Text.sameName name other = false) {header : Header}
    (named : header.isNamed name = true) : header.isNamed other = false := by
  refine Bool.eq_false_iff.mpr fun alsoNamed => ?_
  have same : Text.lower name = Text.lower other :=
    ((Text.sameName_iff _ _).mp named).symm.trans ((Text.sameName_iff _ _).mp alsoNamed)
  rw [(Text.sameName_iff _ _).mpr same] at differs
  cases differs

/-- What is kept of other names is kept as it is when a name is given a value. -/
theorem filter_replaceFirst {kept : Header → Bool}
    (dropped : ∀ entry, entry.isNamed name = true → kept entry = false) (value : String)
    (entries : List Header) : (replaceFirst name value entries).filter kept = entries.filter kept := by
  induction entries with
  | nil =>
    have unkept : ¬ kept ⟨name, value⟩ = true :=
      Bool.eq_false_iff.mp (dropped _ (Text.sameName_refl name))
    exact List.filter_cons_of_neg unkept
  | cons header rest ih =>
    unfold replaceFirst
    by_cases named : header.isNamed name = true
    · have unkept : ¬ kept header = true := Bool.eq_false_iff.mp (dropped header named)
      have stillUnkept : ¬ kept { header with value } = true :=
        Bool.eq_false_iff.mp (dropped { header with value } named)
      rw [if_pos named, List.filter_cons_of_neg stillUnkept, List.filter_cons_of_neg unkept,
        List.filter_filter]
      refine List.filter_congr fun entry _ => ?_
      by_cases isNamed : entry.isNamed name = true
      · rw [dropped entry isNamed, Bool.false_and]
      · rw [Bool.eq_false_iff.mpr isNamed, Bool.not_false, Bool.and_true]
    · rw [if_neg named, List.filter_cons, List.filter_cons, ih]

/-- A name keeps its values when another one is given a value. -/
theorem getAll_insert_of_differs (differs : Text.sameName name other = false) (value : String) :
    (headers.insert name value).getAll other = headers.getAll other := by
  unfold getAll insert
  rw [filter_replaceFirst fun entry => isNamed_of_differs differs]

theorem filter_replaceFirst_of_same (same : Text.sameName name other = true) (value : String)
    (entries : List Header) :
    ((replaceFirst name value entries).filter (Header.isNamed other)).map Header.value
      = [value] := by
  rw [← isNamed_congr same]
  induction entries with
  | nil => simp [replaceFirst, Header.isNamed, Text.sameName_refl]
  | cons header rest ih =>
    unfold replaceFirst
    by_cases named : header.isNamed name = true
    · have still : Header.isNamed name { header with value } = true := named
      have none :
          (rest.filter fun entry => !entry.isNamed name).filter (Header.isNamed name) = [] := by
        simp [List.filter_filter]
      rw [if_pos named, List.filter_cons_of_pos still, none]
      rfl
    · rw [if_neg named, List.filter_cons_of_neg named, ih]

/-- **A name that is given a value has this one alone.** -/
theorem getAll_insert (same : Text.sameName name other = true) (value : String) :
    (headers.insert name value).getAll other = [value] :=
  filter_replaceFirst_of_same same value headers.entries

/-! ### Merging -/

/-- What a name has while headers are merged in: the values it had are gone as soon as the first new
one is met, and from then on all new ones are added. -/
theorem getAll_mergeFrom (name : String) (seen : List String) (headers : Headers)
    (rest : List Header) : (mergeFrom seen headers rest).getAll name
      = if seen.any (Text.sameName · name) then headers.getAll name ++ getAll ⟨rest⟩ name
        else if contains ⟨rest⟩ name then getAll ⟨rest⟩ name else headers.getAll name := by
  induction rest generalizing seen headers with
  | nil => simp [mergeFrom, getAll, contains]
  | cons header rest ih =>
    have named : header.isNamed name = Text.sameName header.name name := rfl
    have containsToo : contains ⟨header :: rest⟩ name
        = (Text.sameName header.name name || contains ⟨rest⟩ name) := rfl
    unfold mergeFrom
    rw [getAll_cons, containsToo, named]
    by_cases isName : Text.sameName header.name name = true
    · -- The header has the name, so it has been met before just if the name has.
      have metToo : (seen.any fun early => Text.sameName early header.name)
          = seen.any (Text.sameName · name) := by
        congr 1
        funext early
        rw [Bool.eq_iff_iff, Text.sameName_iff, Text.sameName_iff,
          (Text.sameName_iff _ _).mp isName]
      rw [metToo]
      split
      · rename_i met
        rw [ih, if_pos met, getAll_append, if_pos isName, List.append_assoc]
      · have metNow : (seen ++ [header.name]).any (Text.sameName · name) = true := by simp [isName]
        rw [ih, if_pos metNow, getAll_insert isName, isName, Bool.true_or, if_pos rfl]
    · have differs : Text.sameName header.name name = false := Bool.eq_false_iff.mpr isName
      rw [if_neg isName, List.nil_append, differs, Bool.false_or]
      split
      · rw [ih, getAll_append, if_neg isName, List.append_nil]
      · rw [ih, getAll_insert_of_differs differs, List.any_append]
        simp [differs]

/-- **After a merge** a name has the values that it has in the headers that were merged in, if it has
any there, and otherwise those that it had. -/
theorem getAll_merge (headers other : Headers) (name : String) : (headers.merge other).getAll name
    = if other.contains name then other.getAll name else headers.getAll name :=
  getAll_mergeFrom name [] headers other.entries

theorem contains_merge (headers other : Headers) (name : String) :
    (headers.merge other).contains name = (other.contains name || headers.contains name) := by
  rw [Bool.eq_iff_iff, Bool.or_eq_true, contains_iff, getAll_merge]
  split
  · rename_i given
    simp [given, contains_iff.mp given]
  · rename_i absent
    simp [absent, contains_iff]

end Switchboard.Headers
