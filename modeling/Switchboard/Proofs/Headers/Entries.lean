import Switchboard.Proofs.Headers.Values
/-!
The entries of headers.

Headers are a list, so a change says more than which values a name has afterwards: where they stand,
how their name is spelled, and what becomes of the entries between them. A name that is given a value
keeps the first of its entries, at its place and in its spelling, and loses the others; a merge treats
each name of the other headers so and adds what is left of it at the end. No entry of another name is
touched or passed by another one.

* `Headers.exchange_eq`: to give a name a value and to return the first that it had are one loop.
* `Headers.exchange_laws`: what becomes of the entries when a name is given a value.
* `Headers.merge_laws`: what becomes of them in a merge.
* `Headers.multimap_laws`: both together.
-/

namespace Switchboard.Headers

variable {headers : Headers} {name value : String}

/-! ### Giving a name one value -/

theorem exchangeFirst_eq (name value : String) (entries : List Header) :
    exchangeFirst name value entries
      = ((entries.find? (Header.isNamed name)).map Header.value, replaceFirst name value entries) := by
  induction entries with
  | nil => rfl
  | cons header rest ih =>
    unfold exchangeFirst replaceFirst
    by_cases named : header.isNamed name = true
    · rw [if_pos named, if_pos named, List.find?_cons_of_pos named]
      rfl
    · rw [if_neg named, if_neg named, List.find?_cons_of_neg named, ih]

/-- **What is returned is the first value that the name had**, and what is left is what `insert`
leaves. -/
theorem exchange_eq (headers : Headers) (name value : String) :
    headers.exchange name value = (headers.get? name, headers.insert name value) := by
  unfold exchange
  rw [exchangeFirst_eq]
  rfl

/-- The first entry of a name keeps its place and its spelling; those after it are dropped. -/
theorem replaceFirst_split {front rest : List Header} {first : Header}
    (before : ∀ entry ∈ front, entry.isNamed name = false) (named : first.isNamed name = true) :
    replaceFirst name value (front ++ first :: rest)
      = front ++ { first with value } :: rest.filter fun entry => !entry.isNamed name := by
  induction front with
  | nil =>
    rw [List.nil_append, List.nil_append, replaceFirst, if_pos named]
  | cons header others ih =>
    obtain ⟨unnamed, later⟩ := List.forall_mem_cons.mp before
    rw [List.cons_append, List.cons_append, replaceFirst, if_neg (by simp [unnamed]), ih later]

/-- A name that is new is the last one. -/
theorem replaceFirst_of_absent {entries : List Header}
    (absent : ∀ entry ∈ entries, entry.isNamed name = false) :
    replaceFirst name value entries = entries ++ [⟨name, value⟩] := by
  induction entries with
  | nil => rfl
  | cons header others ih =>
    obtain ⟨unnamed, later⟩ := List.forall_mem_cons.mp absent
    rw [List.cons_append, replaceFirst, if_neg (by simp [unnamed]), ih later]

/-- **What becomes of headers when a name is given a value**, and what is returned. -/
structure Exchanged (headers : Headers) (name value : String) (former : Option String)
    (after : Headers) : Prop where
  /-- The name has this value alone, however it is spelled. -/
  values : ∀ other, Text.sameName name other = true → after.getAll other = [value]
  /-- The first entry of the name keeps its place and its spelling. -/
  place : ∀ front first rest, headers.entries = front ++ first :: rest →
    (∀ entry ∈ front, entry.isNamed name = false) → first.isNamed name = true →
    after.entries = front ++ ⟨first.name, value⟩ :: rest.filter fun entry => !entry.isNamed name
  /-- Without one, the new entry is the last. -/
  last : headers.contains name = false → after.entries = headers.entries ++ [⟨name, value⟩]
  /-- The entries of other names are the same, in the same order. -/
  others : (after.entries.filter fun entry => !entry.isNamed name)
    = headers.entries.filter fun entry => !entry.isNamed name
  former : former = (headers.getAll name).head?

theorem exchange_laws (headers : Headers) (name value : String) : headers.Exchanged name value
    (headers.exchange name value).1 (headers.exchange name value).2 := by
  rw [exchange_eq]
  refine ⟨fun other same => getAll_insert same value, ?_, fun absent => ?_, ?_, ?_⟩
  · intro front first rest split before named
    show replaceFirst name value headers.entries = _
    rw [split, replaceFirst_split before named]
  · refine replaceFirst_of_absent fun entry member => ?_
    exact Bool.eq_false_iff.mpr (List.any_eq_false.mp absent entry member)
  · refine filter_replaceFirst (fun entry named => ?_) value headers.entries
    rw [named, Bool.not_true]
  · exact get?_eq_head? headers name

/-! ### Merging -/

/-- Entries whose names are not merged in are passed by in a merge, whatever was met before. -/
theorem filter_mergeFrom {kept : Header → Bool}
    (congr : ∀ one other : Header, Text.sameName one.name other.name = true → kept one = kept other)
    (seen : List String) (headers : Headers) {rest : List Header}
    (dropped : ∀ entry ∈ rest, kept entry = false) :
    (mergeFrom seen headers rest).entries.filter kept = headers.entries.filter kept := by
  induction rest generalizing seen headers with
  | nil => rfl
  | cons header rest ih =>
    obtain ⟨unkept, later⟩ := List.forall_mem_cons.mp dropped
    unfold mergeFrom
    split
    · rw [ih _ _ later, append, List.filter_append, List.filter_cons_of_neg (by simp [unkept]),
        List.filter_nil, List.append_nil]
    · rw [ih _ _ later]
      refine filter_replaceFirst (fun entry named => ?_) header.value headers.entries
      rw [congr entry header named, unkept]

/-- **What becomes of headers when others are merged in.** -/
structure Merged (headers other after : Headers) : Prop where
  /-- A name has the values that it has in the others, if it has any there, and otherwise those that
  it had. -/
  values : ∀ name, after.getAll name
    = if other.contains name then other.getAll name else headers.getAll name
  /-- The entries of names that are not in the others are the same, in the same order. -/
  others : (after.entries.filter fun entry => !other.contains entry.name)
    = headers.entries.filter fun entry => !other.contains entry.name

theorem merge_laws (headers other : Headers) : headers.Merged other (headers.merge other) := by
  refine ⟨getAll_merge headers other, ?_⟩
  refine filter_mergeFrom (fun one another same => ?_) [] headers fun entry member => ?_
  · rw [contains_congr same]
  · have contained : other.contains entry.name = true :=
      List.any_eq_true.mpr ⟨entry, member, Text.sameName_refl entry.name⟩
    rw [contained, Bool.not_true]

/-- **The laws of headers**: whatever they are, a name that is given a value has it alone, in the
place of the first one, which is returned; after a merge each name has the values it has in what was
merged in, if there are any; and no other entry is changed or moved. -/
theorem multimap_laws (headers : Headers) :
    (∀ name value, headers.Exchanged name value (headers.exchange name value).1
      (headers.exchange name value).2) ∧
    ∀ other, headers.Merged other (headers.merge other) :=
  ⟨exchange_laws headers, merge_laws headers⟩

/-- Headers of which a name stands twice, with another one between. -/
example : (Headers.ofPairs [("X-Tag", "a"), ("Accept", "text/html"), ("x-tag", "b")]).exchange
      "X-TAG" "c"
    = (some "a", Headers.ofPairs [("X-Tag", "c"), ("Accept", "text/html")]) := by
  decide

end Switchboard.Headers
