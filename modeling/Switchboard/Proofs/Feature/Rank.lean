import Mathlib.Data.List.Count
import Mathlib.Data.Prod.Lex
import Switchboard.Dispatcher
/-!
The order in which features are preferred.

A feature for one verb is preferred to one for every verb, then one with more constants to one with
fewer, and then one that lets fewer segments follow to one that lets more follow. Features that are
alike in all three are preferred in the order in which they stand.

* `Feature.rank` is what features are compared by, and `Feature.outranks_iff` says that
  `Feature.outranks` compares it.
* `Feature.Leads` says that a feature is the first of the best in a list, and
  `Feature.best?_eq_some_iff` that it is the one that `Feature.best?` finds.
* `Draft.toNat_extent_lt`: a feature without a final star in its signature lets fewer segments
  follow than one with it, where the greatest number of 64 bits stands for any number of them.
-/

namespace Switchboard

variable {σ : Type}

namespace Feature

/-! ### Ranks -/

/-- What a feature is preferred for: first that it is for one verb, then the number of its
constants, and then that few segments may follow. -/
def rank (feature : Feature σ) : Bool ×ₗ Nat ×ₗ Natᵒᵈ :=
  toLex (feature.verb.isSome, toLex (feature.signature.constantCount,
    OrderDual.toDual feature.signature.extent.toNat))

/-- **A feature outranks those of a lower rank.** -/
theorem outranks_iff {one other : Feature σ} :
    one.outranks other = true ↔ other.rank < one.rank := by
  unfold outranks rank
  rw [Prod.Lex.toLex_lt_toLex, Prod.Lex.toLex_lt_toLex, OrderDual.toDual_lt_toDual]
  by_cases verbs : one.verb.isSome = other.verb.isSome
  · rw [if_neg (not_not_intro verbs), verbs]
    by_cases constants : one.signature.constantCount = other.signature.constantCount
    · rw [if_neg (not_not_intro constants), constants]
      simp
    · rw [if_pos constants]
      simp [Ne.symm constants]
  · rw [if_pos verbs]
    cases own : one.verb.isSome <;> cases others : other.verb.isSome <;> simp_all

/-! ### The first of the best -/

/-- **A feature is the first of the best in a list**: those before it have a lower rank, and those
after it have no higher one. -/
def Leads (feature : Feature σ) (features : List (Feature σ)) : Prop :=
  ∃ earlier later, features = earlier ++ feature :: later ∧
    (∀ other ∈ earlier, other.rank < feature.rank) ∧ ∀ other ∈ later, other.rank ≤ feature.rank

namespace Leads

variable {feature other : Feature σ} {features : List (Feature σ)}

theorem mem (leads : feature.Leads features) : feature ∈ features := by
  obtain ⟨earlier, later, rfl, _⟩ := leads
  exact List.mem_append_right _ List.mem_cons_self

/-- No rank is higher than that of the first of the best. -/
theorem rank_le (leads : feature.Leads features) (member : other ∈ features) :
    other.rank ≤ feature.rank := by
  obtain ⟨earlier, later, rfl, before, after⟩ := leads
  rcases List.mem_append.mp member with member | member
  · exact le_of_lt (before other member)
  · rcases List.mem_cons.mp member with rfl | member
    · exact le_rfl
    · exact after other member

/-- Nothing stands between two features at the same place of a list, if what stands there has a
lower rank than the second and that has no higher one than the first. -/
theorem eq_of_append_eq {between rest rest' : List (Feature σ)}
    (same : feature :: rest = between ++ other :: rest')
    (lower : ∀ middle ∈ between, middle.rank < other.rank) (least : other.rank ≤ feature.rank) :
    feature = other := by
  cases between with
  | nil => exact (List.cons.inj same).1
  | cons first middle =>
    obtain ⟨rfl, _⟩ := List.cons.inj same
    exact absurd (lower feature List.mem_cons_self) (not_lt_of_ge least)

/-- A list has one first of the best. -/
theorem unique (leads : feature.Leads features) (leads' : other.Leads features) :
    feature = other := by
  have ⟨earlier, later, parts, before, _⟩ := leads
  have ⟨earlier', later', parts', before', _⟩ := leads'
  -- What stands before the one begins with all that stands before the other.
  rcases List.append_eq_append_iff.mp (parts.symm.trans parts') with
    ⟨between, rfl, same⟩ | ⟨between, rfl, same⟩
  · exact eq_of_append_eq same (fun middle member => before' middle
      (List.mem_append_right _ member)) (leads.rank_le leads'.mem)
  · exact (eq_of_append_eq same (fun middle member => before middle
      (List.mem_append_right _ member)) (leads'.rank_le leads.mem)).symm

/-- The first of the best stays so if a feature of a lower rank is put in front. -/
theorem cons_of_lt (leads : feature.Leads features) (lower : other.rank < feature.rank) :
    feature.Leads (other :: features) := by
  obtain ⟨earlier, later, rfl, before, after⟩ := leads
  exact ⟨other :: earlier, later, rfl, List.forall_mem_cons.mpr ⟨lower, before⟩, after⟩

/-- What does not outrank the first feature of a list can stand after it. -/
theorem insert_second {best : Feature σ} (leads : feature.Leads (best :: features))
    (notHigher : other.rank ≤ best.rank) : feature.Leads (best :: other :: features) := by
  obtain ⟨earlier, later, parts, before, after⟩ := leads
  cases earlier with
  | nil =>
    obtain ⟨rfl, rfl⟩ := List.cons.inj parts
    exact ⟨[], other :: features, rfl, before, List.forall_mem_cons.mpr ⟨notHigher, after⟩⟩
  | cons first earlier =>
    obtain ⟨rfl, rfl⟩ := List.cons.inj parts
    obtain ⟨lower, before⟩ := List.forall_mem_cons.mp before
    exact ⟨best :: other :: earlier, later, rfl,
      List.forall_mem_cons.mpr ⟨lower, List.forall_mem_cons.mpr
        ⟨lt_of_le_of_lt notHigher lower, before⟩⟩, after⟩

end Leads

/-- One pass over a list keeps the first of the best. -/
theorem bestFrom_leads (best : Feature σ) (features : List (Feature σ)) :
    (bestFrom best features).Leads (best :: features) := by
  -- The best so far is general, since the pass replaces it on its way.
  induction features generalizing best with
  | nil => exact ⟨[], [], rfl, List.forall_mem_nil _, List.forall_mem_nil _⟩
  | cons feature rest ih =>
    unfold bestFrom
    by_cases higher : feature.outranks best = true
    · rw [if_pos higher]
      have least : best.rank < feature.rank := outranks_iff.mp higher
      exact (ih feature).cons_of_lt
        (lt_of_lt_of_le least ((ih feature).rank_le List.mem_cons_self))
    · rw [if_neg higher]
      exact (ih best).insert_second (le_of_not_gt (mt outranks_iff.mpr higher))

/-- **`best?` finds the first of the best.** -/
theorem best?_eq_some_iff {features : List (Feature σ)} {feature : Feature σ} :
    best? features = some feature ↔ feature.Leads features := by
  cases features with
  | nil => exact ⟨fun found => (nomatch found), fun leads => (nomatch leads.mem)⟩
  | cons first rest =>
    constructor
    · intro found
      cases found
      exact bestFrom_leads first rest
    · intro leads
      exact congrArg some ((bestFrom_leads first rest).unique leads)

/-- There is a best feature in every list that is not empty. -/
theorem best?_eq_none_iff {features : List (Feature σ)} :
    best? features = none ↔ features = [] := by
  cases features <;> simp [best?]

end Feature

/-! ### Segments that may follow -/

/-- A cut makes no more pieces of one text than there are characters, unless that text is empty. -/
theorem Text.count_splitOn_le {piece : List Char} (nonempty : piece ≠ []) (c : Char)
    (text : List Char) : (Text.splitOn c text).count piece ≤ text.length := by
  induction text with
  | nil => simp [Text.splitOn, nonempty.symm]
  | cons d rest ih =>
    unfold Text.splitOn
    split
    · rw [List.count_cons_of_ne nonempty.symm]
      exact Nat.le_succ_of_le ih
    · split
      · exact List.count_le_length.trans (Nat.succ_le_succ (Nat.zero_le _))
      · rename_i first others pieces
        rw [pieces] at ih
        have others_le : others.count piece ≤ rest.length := List.count_le_count_cons.trans ih
        rw [List.count_cons, List.length_cons]
        split <;> omega

namespace Signature

/-- Every `?` token lets one more segment follow, and nothing else does. -/
theorem extent_of_readTokens {tokens : List String} {places places' : List Place}
    {optional count : Nat}
    (read : readTokens places optional tokens = .ok (places', .atMost count)) :
    count = optional + tokens.count "?" := by
  induction tokens generalizing places optional with
  | nil =>
    cases read
    rfl
  | cons token rest ih =>
    unfold readTokens at read
    split at read
    · split at read <;> cases read
    · split at read
      · rename_i isMark
        rw [ih read, isMark, List.count_cons_self]
        omega
      · rename_i notMark
        rw [List.count_cons_of_ne notMark]
        split at read
        · cases read
        · split at read
          · exact ih read
          · cases read

theorem length_dropSlashes_le (text : List Char) : (dropSlashes text).length ≤ text.length := by
  have dropLast_le : ∀ text : List Char,
      (if text.getLast? = some '/' then text.dropLast else text).length ≤ text.length := by
    intro text
    split
    · exact (List.dropLast_sublist text).length_le
    · exact le_rfl
  refine (dropLast_le _).trans ?_
  split
  · exact Nat.le_succ _
  · exact le_rfl

/-- There are no more `?` tokens in a signature than characters. -/
theorem count_tokens_le (written : String) : (tokens written).count "?" ≤ written.length := by
  unfold tokens
  split
  · exact Nat.zero_le _
  · have marks := List.count_map_of_injective (Text.splitOn '/' (dropSlashes written.toList))
      String.ofList (fun _ _ => String.ofList_inj.mp) ['?']
    refine (marks.trans_le (Text.count_splitOn_le (by decide) '/' _)).trans ?_
    exact length_dropSlashes_le _

/-- A signature without a final star lets no more segments follow than it has characters. -/
theorem toNat_extent_le {base : List String} {written : String} {signature : Signature}
    (read : Signature.read base written = .ok signature)
    (bounded : signature.extent ≠ .unbounded) : signature.extent.toNat ≤ written.length := by
  unfold Signature.read at read
  split at read
  · rename_i places extent tokensRead
    cases read
    cases extent with
    | unbounded => exact absurd rfl bounded
    | atMost count =>
      have counted := extent_of_readTokens tokensRead
      rw [Nat.zero_add] at counted
      exact counted.trans_le (count_tokens_le written)
  · cases read

end Signature

namespace Draft

/-- What is built after a step is built of what the step makes. -/
theorem exists_of_bind {ε α β : Type} {first : Except ε α} {next : α → Except ε β} {built : β}
    (done : (first >>= next) = .ok built) : ∃ made, first = .ok made ∧ next made = .ok built := by
  cases first with
  | error fault => cases done
  | ok made => exact ⟨made, rfl, done⟩

/-- A feature has the signature that was declared, as it is read below the base. -/
theorem read_of_build {draft : Draft σ} {service : String} {base : List String}
    {counter : Counter} {feature : Feature σ}
    (built : draft.build service base counter = .ok feature) :
    Signature.read base draft.signature = .ok feature.signature := by
  unfold build at built
  obtain ⟨verb, _, built⟩ := exists_of_bind built
  obtain ⟨signature, read, built⟩ := exists_of_bind built
  dsimp only at built
  split at built
  · obtain ⟨handler, _, built⟩ := exists_of_bind built
    obtain ⟨main, _, built⟩ := exists_of_bind built
    obtain ⟨prologues, _, built⟩ := exists_of_bind built
    obtain ⟨epilogues, _, built⟩ := exists_of_bind built
    cases built
    cases declared : Signature.read base draft.signature with
    | error fault =>
      rw [declared] at read
      cases read
    | ok signature =>
      rw [declared] at read
      cases read
      rfl
  · cases built

/-- **A final star lets the most segments follow**, of all features whose signatures were declared
by texts of which the length is a number of 64 bits. -/
theorem toNat_extent_lt {draft : Draft σ} {service : String} {base : List String}
    {counter : Counter} {feature : Feature σ}
    (built : draft.build service base counter = .ok feature)
    (short : draft.signature.length < Number.maxWord)
    (bounded : feature.signature.extent ≠ .unbounded) :
    feature.signature.extent.toNat < Extent.unbounded.toNat :=
  (Signature.toNat_extent_le (read_of_build built) bounded).trans_lt short

end Draft

end Switchboard
