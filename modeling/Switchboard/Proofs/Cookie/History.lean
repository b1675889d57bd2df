import Mathlib.Data.List.Nodup
import Mathlib.Data.List.Pairwise
import Switchboard.Cookie.Jar
import Switchboard.Proofs.Cookie.Covering
import Switchboard.Proofs.Cookie.LastWrites
/-!
What a jar gives after a history of calls.

A jar is written to, read and cleared, by a clock that does not go back. What it gives then depends
on what was written since it was cleared last and on nothing else: the cookies that are the last of
their slot, without those whose end has come, for the URIs that their scopes cover.

A jar throws expired cookies away, and forgets a slot altogether when what is written to it has
expired already. So it does not hold the last writes; but from now on it agrees with them
(`Jar.Agrees`), since what has expired stays so.

* `Jar.Sound.run`: every cookie of a jar has a scope, and no two have one slot.
* `Jar.agrees_run`: after every history a jar agrees with what was written.
* `Jar.Answers` says what a jar gives for a URI, and `Jar.keeps_last_writes` that it is so after
  every history.
-/

namespace Switchboard

/-! ### Sorting -/

section Sorting

variable {α : Type} {items : List α} {one other : α}

/-- Of two items of a list without repetitions only one comes before the other. -/
theorem not_pair_sublist (nodup : items.Nodup) (before : [one, other].Sublist items) :
    ¬ [other, one].Sublist items := by
  induction items with
  | nil => nofun
  | cons item rest ih =>
    obtain ⟨fresh, nodupRest⟩ := List.nodup_cons.mp nodup
    intro after
    cases before with
    | cons _ later =>
      cases after with
      | cons _ later' => exact ih nodupRest later later'
      | cons_cons _ _ => exact fresh (later.subset (by simp))
    | cons_cons _ later =>
      cases after with
      | cons _ later' => exact fresh (later'.subset (by simp))
      | cons_cons _ _ => exact fresh (later.subset (by simp))

/-- **A sort is stable**: of items that may stand in either order, the first one stays first. -/
theorem pairwise_mergeSort_stable {before : α → α → Prop} {le : α → α → Bool}
    (trans : ∀ a b c, le a b = true → le b c = true → le a c = true)
    (total : ∀ a b, (le a b || le b a) = true) (ordered : items.Pairwise before)
    (nodup : items.Nodup) : (items.mergeSort le).Pairwise fun one other =>
      le one other = true ∧ (le other one = true → before one other) := by
  have sorted := List.pairwise_mergeSort trans total items
  have nodupSorted : (items.mergeSort le).Nodup :=
    (List.mergeSort_perm items le).nodup_iff.mpr nodup
  -- Two items stand in one order or the other, and tied ones keep theirs.
  have comparable : ∀ one ∈ items, ∀ other ∈ items, one ≠ other →
      [one, other].Sublist items ∨ [other, one].Sublist items := by
    have pairs : items.Pairwise fun one other =>
        [one, other].Sublist items ∨ [other, one].Sublist items :=
      List.pairwise_iff_forall_sublist.mpr fun sub => Or.inl sub
    have symmetric : Std.Symm fun one other =>
        [one, other].Sublist items ∨ [other, one].Sublist items := ⟨fun _ _ => Or.symm⟩
    exact fun one member other member' differs => pairs.forall member member' differs
  refine List.pairwise_iff_forall_sublist.mpr fun {one other} sub => ?_
  refine ⟨List.pairwise_iff_forall_sublist.mp sorted sub, fun back => ?_⟩
  have member : one ∈ items := List.mem_mergeSort.mp (sub.subset (by simp))
  have member' : other ∈ items := List.mem_mergeSort.mp (sub.subset (by simp))
  have differs : one ≠ other := List.pairwise_iff_forall_sublist.mp nodupSorted sub
  rcases comparable one member other member' differs with first | second
  · exact List.pairwise_iff_forall_sublist.mp ordered first
  · exact absurd (List.pair_sublist_mergeSort trans total back second)
      (not_pair_sublist nodupSorted sub)

end Sorting

namespace Jar

open Cookie

/-! ### Histories -/

/-- What is asked of a jar. -/
inductive Call where
  | update (cookies : List Cookie) (source : Uri)
  | fetch (uri : Uri)
  | clear

/-- What was asked of a jar, with the times. -/
abbrev History := List (Int × Call)

/-- A jar after a call. -/
def after (now : Int) (jar : Jar) : Call → Jar
  | .update cookies source => jar.update cookies source now
  | .fetch uri => (jar.fetch uri now).2
  | .clear => empty

/-- A jar after a history. -/
def run (jar : Jar) (history : History) : Jar :=
  history.foldl (fun jar entry => jar.after entry.1 entry.2) jar

/-- A jar after a call, if nothing is ever thrown away. -/
def afterKeeping (now : Int) (jar : Jar) : Call → Jar
  | .update cookies source => (cookies.map (withScope source)).foldl (write now) jar
  | .fetch _ => jar
  | .clear => empty

/-- A jar after a history, if nothing is ever thrown away. -/
def runKeeping (jar : Jar) (history : History) : Jar :=
  history.foldl (fun jar entry => jar.afterKeeping entry.1 entry.2) jar

/-- What has been written since the last time a jar was cleared, after one more call. -/
def writtenAfter (writes : List Cookie) : Call → List Cookie
  | .update cookies source => writes ++ cookies.map (withScope source)
  | .fetch _ => writes
  | .clear => []

/-- What was written in a history since the last time a jar was cleared. -/
def written (history : History) : List Cookie :=
  history.foldl (fun writes entry => writtenAfter writes entry.2) []

/-- The clock does not go back in a history, up to a moment. -/
def InOrder (history : History) (now : Int) : Prop :=
  (history.Pairwise fun one other => one.1 ≤ other.1) ∧ ∀ entry ∈ history, entry.1 ≤ now

variable {jar : Jar} {history : History} {entry : Int × Call} {writes : List Cookie}
  {cookie : Cookie} {source uri : Uri} {now later : Int}

theorem run_append (jar : Jar) (history later : History) :
    jar.run (history ++ later) = (jar.run history).run later :=
  List.foldl_append

@[simp] theorem run_concat (jar : Jar) (history : History) (entry : Int × Call) :
    jar.run (history ++ [entry]) = (jar.run history).after entry.1 entry.2 := by
  simp [run]

@[simp] theorem written_concat (history : History) (entry : Int × Call) :
    written (history ++ [entry]) = writtenAfter (written history) entry.2 := by
  simp [written]

theorem inOrder_concat_iff :
    InOrder (history ++ [entry]) now ↔ InOrder history entry.1 ∧ entry.1 ≤ now := by
  unfold InOrder
  rw [List.pairwise_append]
  constructor
  · rintro ⟨⟨ordered, -, upTo⟩, within⟩
    have last : entry.1 ≤ now := within entry (by simp)
    exact ⟨⟨ordered, fun other member => upTo other member entry (by simp)⟩, last⟩
  · rintro ⟨⟨ordered, upTo⟩, last⟩
    refine ⟨⟨ordered, List.pairwise_singleton _ _, ?_⟩, ?_⟩
    · intro other member added isAdded
      rw [List.mem_singleton.mp isAdded]
      exact upTo other member
    · intro other member
      rcases List.mem_append.mp member with earlier | isLast
      · exact Int.le_trans (upTo other earlier) last
      · rw [List.mem_singleton.mp isLast]
        exact last

/-! ### What jars hold -/

/-- **Every cookie of a jar has a scope, and no two of them have one slot.** -/
structure Sound (jar : Jar) : Prop where
  scopes : ∀ cookie ∈ jar.cookies, cookie.scope.isSome = true
  slots : (jar.cookies.map slot).Nodup

theorem Sound.empty : Sound empty :=
  ⟨fun _ member => absurd member List.not_mem_nil, List.nodup_nil⟩

theorem isSome_scope_withScope (source : Uri) (cookie : Cookie) :
    (withScope source cookie).scope.isSome = true := by
  unfold withScope
  split <;> simp_all

theorem Sound.purge (sound : jar.Sound) (now : Int) : (jar.purge now).Sound := by
  refine ⟨fun cookie member => sound.scopes cookie (List.mem_filter.mp member).1, ?_⟩
  exact sound.slots.sublist (List.filter_sublist.map slot)

/-- After a write a jar holds what was written, unless that has expired, and what is not in its
slot. -/
theorem mem_write_iff {added : Cookie} : cookie ∈ (jar.write now added).cookies ↔
    (cookie ∈ jar.cookies ∧ cookie.slot ≠ added.slot) ∨
      (cookie = added ∧ added.isExpired now = false) := by
  have others : cookie ∈ (jar.cookies.filter fun other => !other.sameSlot added) ↔
      cookie ∈ jar.cookies ∧ cookie.slot ≠ added.slot := by
    rw [List.mem_filter, Bool.not_eq_true', ← Bool.not_eq_true, sameSlot_iff]
  unfold write
  cases added.isExpired now <;> simp [others]

/-- One write leaves a jar sound. -/
theorem Sound.write (sound : jar.Sound) (now : Int) (given : cookie.scope.isSome = true) :
    (jar.write now cookie).Sound := by
  have others : (jar.cookies.filter fun other => !other.sameSlot cookie).Sublist jar.cookies :=
    List.filter_sublist
  unfold Jar.write
  by_cases expired : cookie.isExpired now = true
  · simp only [if_pos expired]
    exact ⟨fun other member => sound.scopes other (others.subset member),
      sound.slots.sublist (others.map slot)⟩
  · simp only [if_neg expired]
    refine ⟨fun other member => ?_, ?_⟩
    · rcases List.mem_append.mp member with isOther | isAdded
      · exact sound.scopes other (others.subset isOther)
      · rw [List.mem_singleton.mp isAdded]
        exact given
    · rw [List.map_append, List.map_singleton, List.nodup_append]
      refine ⟨sound.slots.sublist (others.map slot), List.pairwise_singleton _ _, ?_⟩
      rintro place isOther added isAdded rfl
      obtain ⟨other, member, same⟩ := List.mem_map.mp isOther
      rw [List.mem_singleton.mp isAdded] at same
      have free := (List.mem_filter.mp member).2
      rw [sameSlot_iff.mpr same] at free
      simp at free

theorem Sound.foldl_write {cookies : List Cookie} (sound : jar.Sound) (now : Int)
    (given : ∀ cookie ∈ cookies, cookie.scope.isSome = true) :
    (cookies.foldl (Jar.write now) jar).Sound := by
  induction cookies generalizing jar with
  | nil => exact sound
  | cons cookie rest ih =>
    exact ih (sound.write now (given cookie (by simp))) fun other member =>
      given other (List.mem_cons_of_mem _ member)

theorem Sound.after (sound : jar.Sound) (now : Int) (call : Call) : (jar.after now call).Sound := by
  cases call with
  | update cookies source =>
    have given : ∀ cookie ∈ cookies.map (withScope source), cookie.scope.isSome = true := by
      intro cookie member
      obtain ⟨sent, -, rfl⟩ := List.mem_map.mp member
      exact isSome_scope_withScope source sent
    exact (sound.foldl_write now given).purge now
  | fetch uri => exact sound.purge now
  | clear => exact Sound.empty

/-- **A sound jar stays sound, whatever is asked of it.** -/
theorem Sound.run (sound : jar.Sound) (history : History) : (jar.run history).Sound := by
  induction history using List.reverseRecOn with
  | nil => exact sound
  | append_singleton history entry ih =>
    rw [run_concat]
    exact ih.after entry.1 entry.2

/-! ### What jars agree with -/

/-- From a time on, a jar has the same cookies for use as the last ones of what was written. -/
def Agrees (jar : Jar) (writes : List Cookie) (now : Int) : Prop :=
  ∀ moment, now ≤ moment → jar.cookies.filter (fun cookie => !cookie.isExpired moment)
    = (lastWrites writes).filter fun cookie => !cookie.isExpired moment

theorem Agrees.mono (agrees : jar.Agrees writes now) (le : now ≤ later) :
    jar.Agrees writes later :=
  fun moment from' => agrees moment (Int.le_trans le from')

theorem Agrees.empty : Agrees empty [] now := fun _ _ => rfl

/-- Throwing away what has expired shows nowhere. -/
theorem Agrees.purge (agrees : jar.Agrees writes now) : (jar.purge now).Agrees writes now := by
  intro moment from'
  rw [← agrees moment from', Jar.purge, List.filter_filter]
  refine List.filter_congr fun cookie _ => ?_
  cases expired : cookie.isExpired now with
  | false => simp
  | true => simp [isExpired_of_le from' expired]

/-- One write: what has expired already has no part in either. -/
theorem Agrees.write (agrees : jar.Agrees writes now) (cookie : Cookie) :
    (jar.write now cookie).Agrees (writes ++ [cookie]) now := by
  intro moment from'
  have others : (jar.cookies.filter fun other => !other.sameSlot cookie).filter
        (fun other => !other.isExpired moment)
      = ((lastWrites writes).filter fun other => !other.sameSlot cookie).filter
        fun other => !other.isExpired moment := by
    have swapped := congrArg (List.filter fun other => !other.sameSlot cookie) (agrees moment from')
    simp only [List.filter_filter] at swapped ⊢
    simpa only [Bool.and_comm] using swapped
  unfold Jar.write
  by_cases expired : cookie.isExpired now = true
  · simp [if_pos expired, lastWrites_concat, others, isExpired_of_le from' expired]
  · simp [if_neg expired, lastWrites_concat, others]

theorem Agrees.foldl_write {cookies : List Cookie} (agrees : jar.Agrees writes now) :
    (cookies.foldl (Jar.write now) jar).Agrees (writes ++ cookies) now := by
  induction cookies generalizing jar writes with
  | nil => simpa using agrees
  | cons cookie rest ih =>
    have written := ih (agrees.write cookie)
    rwa [List.append_assoc] at written

theorem Agrees.after (agrees : jar.Agrees writes now) (call : Call) :
    (jar.after now call).Agrees (writtenAfter writes call) now := by
  cases call with
  | update cookies source => exact agrees.foldl_write.purge
  | fetch uri => exact agrees.purge
  | clear => exact Agrees.empty

theorem Agrees.afterKeeping (agrees : jar.Agrees writes now) (call : Call) :
    (jar.afterKeeping now call).Agrees (writtenAfter writes call) now := by
  cases call with
  | update cookies source => exact agrees.foldl_write
  | fetch uri => exact agrees
  | clear => exact Agrees.empty

/-- What one call leaves in agreement with what is written, every history does. -/
theorem agrees_foldl {step : Int → Jar → Call → Jar}
    (keeps : ∀ now jar writes call, Agrees jar writes now →
      Agrees (step now jar call) (writtenAfter writes call) now) (inOrder : InOrder history now) :
    (history.foldl (fun jar entry => step entry.1 jar entry.2) empty).Agrees (written history)
      now := by
  -- From the end, since a jar may have been cleared by the last call.
  induction history using List.reverseRecOn generalizing now with
  | nil => exact Agrees.empty
  | append_singleton history entry ih =>
    obtain ⟨earlier, le⟩ := inOrder_concat_iff.mp inOrder
    rw [List.foldl_append, written_concat]
    exact (keeps entry.1 _ _ entry.2 (ih earlier)).mono le

/-- **After every history a jar agrees with what was written.** -/
theorem agrees_run (inOrder : InOrder history now) :
    (empty.run history).Agrees (written history) now :=
  agrees_foldl (fun _ _ _ call agrees => agrees.after call) inOrder

/-- So it would if nothing were ever thrown away. -/
theorem agrees_runKeeping (inOrder : InOrder history now) :
    (empty.runKeeping history).Agrees (written history) now :=
  agrees_foldl (fun _ _ _ call agrees => agrees.afterKeeping call) inOrder

/-! ### What jars give -/

/-- One cookie is given before another one. -/
def Precedes (writes : List Cookie) (one other : Cookie) : Prop :=
  other.path.utf8ByteSize < one.path.utf8ByteSize ∨
    (other.path.utf8ByteSize = one.path.utf8ByteSize ∧ WrittenBefore writes one other)

/-- **What a jar gives for a URI**, by what was written. -/
structure Answers (writes : List Cookie) (uri : Uri) (now : Int) (answer : List Cookie) :
    Prop where
  /-- The cookies that are the last of their slot, whose end has not come, which the scheme is safe
  enough for, and whose scope covers the URI. -/
  mem_iff : ∀ cookie, cookie ∈ answer ↔ (∃ place, IsLast writes place cookie) ∧
    (∀ moment, cookie.expires = some moment → now < moment) ∧
    (cookie.secure = true → uri.scheme = "https" ∨ uri.scheme = "local") ∧
    ∃ scope, cookie.scope = some scope ∧ HostsAgree scope uri ∧
      (scope.pathText = "/" ∨ PathWithin uri.pathText scope.pathText)
  /-- Each of them once. -/
  once : (answer.map slot).Nodup
  /-- Long paths first, and then those that were written first. -/
  ordered : answer.Pairwise (Precedes writes)

theorem isLast_unique {place place' : Nat} (last : IsLast writes place cookie)
    (last' : IsLast writes place' cookie) : place = place' := by
  by_contra differs
  rcases Nat.lt_or_gt_of_ne differs with before | after
  · exact last.2 place' cookie before last'.1 rfl
  · exact last'.2 place cookie after last.1 rfl

theorem Precedes.asymm {one other : Cookie} (before : Precedes writes one other) :
    ¬ Precedes writes other one := by
  rintro (longer | ⟨same, early', late', ordered', lastOther', lastOne'⟩)
  · rcases before with longer' | ⟨same, -⟩ <;> omega
  · rcases before with longer | ⟨-, early, late, ordered, lastOne, lastOther⟩
    · omega
    · have sameEarly := isLast_unique lastOne lastOne'
      have sameLate := isLast_unique lastOther lastOther'
      omega

/-- There is one answer only. -/
theorem Answers.unique {answer answer' : List Cookie} (answers : Answers writes uri now answer)
    (answers' : Answers writes uri now answer') : answer = answer' := by
  have nodup : answer.Nodup := answers.once.of_map slot
  have nodup' : answer'.Nodup := answers'.once.of_map slot
  have perm : answer.Perm answer' := (List.perm_ext_iff_of_nodup nodup nodup').mpr fun cookie => by
    rw [answers.mem_iff, answers'.mem_iff]
  refine perm.eq_of_pairwise (fun one other _ _ before after => ?_) answers.ordered answers'.ordered
  exact absurd after before.asymm

theorem pathFirst_iff {one other : Cookie} :
    pathFirst one other = true ↔ other.path.utf8ByteSize ≤ one.path.utf8ByteSize := by
  simp [pathFirst]

theorem pathFirst_trans (a b c : Cookie) (first : pathFirst a b = true)
    (second : pathFirst b c = true) : pathFirst a c = true := by
  rw [pathFirst_iff] at first second ⊢
  omega

theorem pathFirst_total (a b : Cookie) : (pathFirst a b || pathFirst b a) = true := by
  rw [Bool.or_eq_true, pathFirst_iff, pathFirst_iff]
  omega

/-- **A jar gives long paths first.** -/
theorem pairwise_fetch (jar : Jar) (uri : Uri) (now : Int) :
    (jar.fetch uri now).1.Pairwise fun one other =>
      other.path.utf8ByteSize ≤ one.path.utf8ByteSize := by
  have sorted := List.pairwise_mergeSort pathFirst_trans pathFirst_total
    ((jar.purge now).cookies.filter fun cookie => cookie.matchesUri uri now)
  exact sorted.imp pathFirst_iff.mp

/-- **A jar that agrees with what was written** gives what it has to give. -/
theorem Agrees.answers (agrees : jar.Agrees writes now)
    (given : ∀ cookie ∈ writes, cookie.scope.isSome = true) (uri : Uri) :
    Answers writes uri now (jar.select uri now) := by
  let sent := (lastWrites writes).filter fun cookie => cookie.matchesUri uri now
  have filtered : (jar.cookies.filter fun cookie => cookie.matchesUri uri now) = sent := by
    have live := congrArg (List.filter fun cookie => cookie.matchesUri uri now)
      (agrees now (Int.le_refl now))
    have implied : ∀ cookie : Cookie, (cookie.matchesUri uri now && !cookie.isExpired now)
        = cookie.matchesUri uri now := by
      intro cookie
      unfold matchesUri
      cases cookie.isExpired now <;> simp
    simpa only [List.filter_filter, implied] using live
  have selected : jar.select uri now = sent.mergeSort pathFirst := by rw [select, filtered]
  have slots : (sent.map slot).Nodup :=
    (nodup_slots_lastWrites writes).sublist (List.filter_sublist.map slot)
  have inOrder : sent.Pairwise (WrittenBefore writes) := (pairwise_lastWrites writes).filter _
  rw [selected]
  refine ⟨fun cookie => ?_, ?_, ?_⟩
  · rw [List.mem_mergeSort, List.mem_filter, mem_lastWrites_iff]
    refine and_congr_right fun ⟨place, last⟩ => ?_
    obtain ⟨scope, scopeGiven⟩ :=
      Option.isSome_iff_exists.mp (given cookie (List.mem_of_getElem? last.1))
    rw [matchesUri_iff scopeGiven, scopeGiven]
    simp
  · exact ((List.mergeSort_perm sent pathFirst).map slot).nodup_iff.mpr slots
  · refine (pairwise_mergeSort_stable pathFirst_trans pathFirst_total inOrder
      (slots.of_map slot)).imp ?_
    intro one other ⟨long, tie⟩
    rw [pathFirst_iff] at long
    by_cases shorter : other.path.utf8ByteSize < one.path.utf8ByteSize
    · exact Or.inl shorter
    · exact Or.inr ⟨by omega, tie (pathFirst_iff.mpr (by omega))⟩

/-- What is written came with a call. -/
theorem exists_update_of_mem_written (member : cookie ∈ written history) :
    ∃ entry ∈ history, ∃ cookies source, entry.2 = .update cookies source ∧
      ∃ sent ∈ cookies, cookie = withScope source sent := by
  induction history using List.reverseRecOn with
  | nil => cases member
  | append_singleton history entry ih =>
    have earlier (before : cookie ∈ written history) : ∃ other ∈ history ++ [entry],
        ∃ cookies source, other.2 = .update cookies source ∧
          ∃ sent ∈ cookies, cookie = withScope source sent := by
      obtain ⟨other, isOther, given⟩ := ih before
      exact ⟨other, List.mem_append_left _ isOther, given⟩
    rw [written_concat] at member
    cases call : entry.2 with
    | update cookies source =>
      rw [call] at member
      rcases List.mem_append.mp member with before | added
      · exact earlier before
      · obtain ⟨sent, isSent, rfl⟩ := List.mem_map.mp added
        exact ⟨entry, by simp, cookies, source, call, sent, isSent, rfl⟩
    | fetch uri =>
      rw [call] at member
      exact earlier member
    | clear =>
      rw [call] at member
      cases member

theorem mem_of_mem_foldl_write {cookies : List Cookie}
    (member : cookie ∈ (cookies.foldl (Jar.write now) jar).cookies) :
    cookie ∈ jar.cookies ∨ cookie ∈ cookies := by
  induction cookies generalizing jar with
  | nil => exact Or.inl member
  | cons added rest ih =>
    rcases ih member with kept | later
    · rcases mem_write_iff.mp kept with ⟨other, -⟩ | ⟨rfl, -⟩
      · exact Or.inl other
      · exact Or.inr List.mem_cons_self
    · exact Or.inr (List.mem_cons_of_mem _ later)

/-- A jar holds nothing but what was written. -/
theorem mem_written_of_mem_run (member : cookie ∈ (empty.run history).cookies) :
    cookie ∈ written history := by
  induction history using List.reverseRecOn with
  | nil => cases member
  | append_singleton history entry ih =>
    rw [run_concat] at member
    rw [written_concat]
    cases call : entry.2 with
    | update cookies source =>
      rw [call] at member
      rcases mem_of_mem_foldl_write (List.mem_filter.mp member).1 with kept | added
      · exact List.mem_append_left _ (ih kept)
      · exact List.mem_append_right _ added
    | fetch uri =>
      rw [call] at member
      exact ih (List.mem_filter.mp member).1
    | clear =>
      rw [call] at member
      cases member

/-- What is written has a scope. -/
theorem isSome_scope_of_mem_written (member : cookie ∈ written history) :
    cookie.scope.isSome = true := by
  obtain ⟨_, _, _, source, _, sent, _, rfl⟩ := exists_update_of_mem_written member
  exact isSome_scope_withScope source sent

theorem answers_run (inOrder : InOrder history now) (uri : Uri) :
    Answers (written history) uri now ((empty.run history).fetch uri now).1 :=
  (agrees_run inOrder).purge.answers (fun _ => isSome_scope_of_mem_written) uri

/-- A cookie that has expired takes its slot away from an answer. -/
theorem Answers.concat_of_isExpired {answer : List Cookie} (answers : Answers writes uri now answer)
    (expired : cookie.isExpired now = true) : Answers (writes ++ [cookie]) uri now
      (answer.filter fun other => decide (other.slot ≠ cookie.slot)) := by
  refine ⟨fun other => ?_, answers.once.sublist (List.filter_sublist.map slot), ?_⟩
  · rw [List.mem_filter, answers.mem_iff, decide_eq_true_iff]
    constructor
    · rintro ⟨⟨⟨place, last⟩, rest⟩, differs⟩
      exact ⟨⟨place, isLast_concat_iff.mpr (Or.inr ⟨last, differs.symm⟩)⟩, rest⟩
    · rintro ⟨⟨place, last⟩, fresh, rest⟩
      rcases isLast_concat_iff.mp last with ⟨-, rfl⟩ | ⟨last, differs⟩
      · rw [isExpired_eq_false_iff.mpr fresh] at expired
        cases expired
      · exact ⟨⟨⟨place, last⟩, fresh, rest⟩, differs.symm⟩
  · refine (answers.ordered.filter _).imp_of_mem fun {one other} inOne inOther before => ?_
    have freeOne := of_decide_eq_true (List.mem_filter.mp inOne).2
    have freeOther := of_decide_eq_true (List.mem_filter.mp inOther).2
    exact before.imp_right fun ⟨same, writtenBefore⟩ =>
      ⟨same, writtenBefore.concat freeOne.symm freeOther.symm⟩

/-- **A jar is a map from slots to the cookies that were written last**, after every history of
calls at times that do not go back: its cookies have scopes and slots of their own, and it gives for
each URI the last writes that are for it. A cookie that is written after its end takes its slot away
and nothing else, and it makes no difference that jars throw away what has expired. -/
theorem keeps_last_writes (history : History) (now : Int) (inOrder : InOrder history now) :
    (empty.run history).Sound ∧
    (∀ uri, Answers (written history) uri now ((empty.run history).fetch uri now).1) ∧
    (∀ cookie source, cookie.isExpired now = true → ∀ uri later, now ≤ later →
      (((empty.run history).update [cookie] source now).fetch uri later).1
        = ((empty.run history).fetch uri later).1.filter fun other =>
            decide (other.slot ≠ (withScope source cookie).slot)) ∧
    ∀ uri, ((empty.run history).fetch uri now).1 = (empty.runKeeping history).select uri now := by
  refine ⟨Sound.empty.run history, answers_run inOrder, ?_, fun uri => ?_⟩
  · intro cookie source expired uri later le
    have until' : InOrder history later :=
      ⟨inOrder.1, fun entry member => Int.le_trans (inOrder.2 entry member) le⟩
    have afterwards : InOrder (history ++ [(now, .update [cookie] source)]) later :=
      inOrder_concat_iff.mpr ⟨inOrder, le⟩
    have answers := answers_run afterwards uri
    rw [run_concat, written_concat] at answers
    have same : (withScope source cookie).expires = cookie.expires := by
      unfold withScope
      split <;> rfl
    have expiredLater : (withScope source cookie).isExpired later = true := by
      have stays := isExpired_of_le le expired
      unfold isExpired at stays ⊢
      rwa [same]
    -- What is left of the earlier answer is an answer as well, and there is only one.
    exact answers.unique ((answers_run until' uri).concat_of_isExpired expiredLater)
  · have answers := (agrees_runKeeping inOrder).answers (fun _ => isSome_scope_of_mem_written) uri
    exact (answers_run inOrder uri).unique answers

/-! ### A cloakroom -/

/-- A place without a path. -/
def cloakroom : Uri :=
  { scheme := "local", dotted := false, path := .segments [], query := none, fragment := none
    authority := some { username := "", password := "", host := "cloakroom", port := none } }

/-- A slot is written twice, and another one is emptied. -/
def cloakroomCalls : History :=
  [(0, .update [ofPair "coat" "1", ofPair "hat" "2", ofPair "coat" "3"] cloakroom),
    (5, .fetch cloakroom), (7, .update [{ ofPair "hat" "" with expires := some 6 }] cloakroom)]

/-- The cloakroom gives the last coat. -/
theorem cloakroom_keeps : (empty.run cloakroomCalls).Sound ∧
    ∃ coat, coat.value = "3" ∧ Answers (written cloakroomCalls) cloakroom 9 [coat] := by
  have inOrder : InOrder cloakroomCalls 9 := by
    unfold InOrder cloakroomCalls
    decide
  obtain ⟨sound, answers, -⟩ := keeps_last_writes cloakroomCalls 9 inOrder
  have last := answers cloakroom
  have given : ((empty.run cloakroomCalls).fetch cloakroom 9).1.map value = ["3"] := by
    decide +kernel
  obtain ⟨coat, only, value⟩ := List.map_eq_singleton_iff.mp given
  rw [only] at last
  exact ⟨sound, coat, value, last⟩

/-- What is written without a path covers the cloakroom by the root, and the empty path of the
cloakroom is not within it. -/
theorem cloakroom_is_not_within_root :
    InOrder [(0, .update [ofPair "coat" "1"] cloakroom)] 0 ∧
      ∃ coat ∈ ((empty.run [(0, .update [ofPair "coat" "1"] cloakroom)]).fetch cloakroom 0).1,
        ∃ scope, coat.scope = some scope ∧ ¬ PathWithin cloakroom.pathText scope.pathText := by
  have inOrder : InOrder [(0, .update [ofPair "coat" "1"] cloakroom)] 0 := by
    unfold InOrder
    decide
  have given : ((empty.run [(0, .update [ofPair "coat" "1"] cloakroom)]).fetch cloakroom 0).1
      = [{ ofPair "coat" "1" with scope := some (cloakroom.withPath "/") }] := by
    decide +kernel
  refine ⟨inOrder, _, given ▸ List.mem_singleton_self _, _, rfl, ?_⟩
  have emptyPath : cloakroom.pathText = "" := by decide
  have root : (cloakroom.withPath "/").pathText = "/" := by decide +kernel
  rw [emptyPath, root]
  rintro (same | ⟨rest, goesOn, -⟩)
  · exact absurd same (by decide)
  · have chars := congrArg String.toList goesOn
    simp at chars

end Jar

end Switchboard
