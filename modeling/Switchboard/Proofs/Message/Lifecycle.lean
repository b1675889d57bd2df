import Switchboard.Proofs.Message.Content
/-!
The life of a message and of its copies.

Calls are made on a family of messages, in any order: it begins with some messages, and a copy that
is made joins it at the end. What is told at one place of the family depends on the message there and
on the calls that are made on it, and on nothing else (`Message.filter_tell`). All members of a
family that comes from one message hold what that message holds, as long as they hold anything.

* `Message.tell`: the calls on a family, and what is left of it.
* `Message.alone`: the calls on a single message.
* `Message.lifecycle`: how a message and all of its copies live.
-/

namespace Switchboard.Message

/-! ### Families -/

/-- A call that was made: the place of the message in its family, the message as it was, and the
call. -/
structure Told where
  place : Nat
  asked : Message
  call : Call

namespace Told

/-- What came of a call. -/
def answer (told : Told) : Answer := (told.asked.call told.call).1

/-- The message after a call. -/
def left (told : Told) : Message := (told.asked.call told.call).2

/-- Says whether a call took a stream that nobody had read. -/
def takes (told : Told) : Bool :=
  told.asked.isLive && match told.call with
    | .stream | .memorize _ _ => true
    | _ => false

end Told

/-- The copy that was made, if one was. -/
def Answer.copies : Answer → List Message
  | .copied (.ok copy) => [copy]
  | _ => []

/-- Makes calls on the messages of a family. Returns the calls that were made, and the family
afterwards. -/
def tell : List (Nat × Call) → List Message → List Told × List Message
  | [], family => ([], family)
  | (place, call) :: rest, family =>
    match family[place]? with
    | none => tell rest family
    | some asked =>
      let told : Told := { place, asked, call }
      let (later, last) := tell rest (family.set place told.left ++ told.answer.copies)
      (told :: later, last)

/-- Makes calls on a message that has a place. -/
def alone (place : Nat) : List Call → Message → List Told
  | [], _ => []
  | call :: rest, asked =>
    { place, asked, call } :: alone place rest (asked.call call).2

/-- The calls that are made on the message at a place. -/
def callsAt (place : Nat) (calls : List (Nat × Call)) : List Call :=
  (calls.filter fun call => call.1 = place).map Prod.snd

section

variable {place : Nat} {call : Call} {family : List Message}

theorem tell_cons_of_none (rest : List (Nat × Call)) (nobody : family[place]? = none) :
    tell ((place, call) :: rest) family = tell rest family := by
  simp only [tell, nobody]

theorem tell_cons_of_some (rest : List (Nat × Call)) {asked : Message}
    (there : family[place]? = some asked) :
    let told : Told := { place, asked, call }
    tell ((place, call) :: rest) family
      = (told :: (tell rest (family.set place told.left ++ told.answer.copies)).1,
        (tell rest (family.set place told.left ++ told.answer.copies)).2) := by
  simp only [tell, there]

/-- A copy is what was copied, and it is in memory. -/
theorem eq_of_mem_copies {asked copy : Message} {call : Call}
    (member : copy ∈ (asked.call call).1.copies) : copy = asked ∧ asked.isCloneable = true := by
  cases call with
  | copy =>
    cases made : asked.copy with
    | error fault =>
      simp only [Message.call, made, Answer.copies, List.not_mem_nil] at member
    | ok other =>
      simp only [Message.call, made, Answer.copies, List.mem_singleton] at member
      obtain ⟨inMemory, same⟩ := copy_eq_ok_iff.mp made
      rw [member, same]
      exact ⟨rfl, inMemory⟩
  | _ => exact absurd member List.not_mem_nil

/-! ### What all members keep -/

/-- **What every call keeps, every member of a family keeps.** -/
theorem tell_keeps {kept : Message → Prop}
    (keeps : ∀ message call, kept message → kept (message.call call).2)
    (calls : List (Nat × Call)) : ∀ {family : List Message}, (∀ member ∈ family, kept member) →
      (∀ told ∈ (tell calls family).1, kept told.asked) ∧
        ∀ member ∈ (tell calls family).2, kept member := by
  induction calls with
  | nil => exact fun all => ⟨List.forall_mem_nil _, all⟩
  | cons first rest ih =>
    obtain ⟨place, call⟩ := first
    intro family all
    cases there : family[place]? with
    | none =>
      rw [tell_cons_of_none rest there]
      exact ih all
    | some asked =>
      rw [tell_cons_of_some rest there]
      have keptAsked : kept asked := all asked (List.mem_of_getElem? there)
      have onward : ∀ member ∈ family.set place (asked.call call).2
          ++ (asked.call call).1.copies, kept member := by
        intro member isMember
        rcases List.mem_append.mp isMember with old | isCopy
        · rcases List.mem_or_eq_of_mem_set old with stays | rfl
          · exact all member stays
          · exact keeps asked call keptAsked
        · rw [(eq_of_mem_copies isCopy).1]
          exact keptAsked
      obtain ⟨told, members⟩ := ih onward
      exact ⟨List.forall_mem_cons.mpr ⟨keptAsked, told⟩, members⟩

/-! ### One place -/

theorem callsAt_cons_of_eq (place : Nat) (call : Call) (rest : List (Nat × Call)) :
    callsAt place ((place, call) :: rest) = call :: callsAt place rest := by
  unfold callsAt
  rw [List.filter_cons_of_pos (by exact decide_eq_true rfl)]
  rfl

theorem callsAt_cons_of_ne {other : Nat} (elsewhere : other ≠ place) (call : Call)
    (rest : List (Nat × Call)) : callsAt place ((other, call) :: rest) = callsAt place rest := by
  unfold callsAt
  rw [List.filter_cons_of_neg (by rw [decide_eq_true_iff]; exact elsewhere)]

/-- **What is told at one place** depends on the message there and on the calls that are made on it
alone. -/
theorem filter_tell (calls : List (Nat × Call)) : ∀ {family : List Message} {member : Message},
    family[place]? = some member →
      (tell calls family).1.filter (fun told => told.place = place)
        = alone place (callsAt place calls) member := by
  induction calls with
  | nil => exact fun _ => rfl
  | cons first rest ih =>
    obtain ⟨other, call⟩ := first
    intro family member here
    have inside : place < family.length := (List.getElem?_eq_some_iff.mp here).1
    have joined : ∀ (left : Message) (copies : List Message),
        (family.set other left ++ copies)[place]? = (family.set other left)[place]? :=
      fun left copies => List.getElem?_append_left (by rw [List.length_set]; exact inside)
    by_cases elsewhere : other = place
    · subst elsewhere
      rw [tell_cons_of_some rest here, callsAt_cons_of_eq,
        List.filter_cons_of_pos (by exact decide_eq_true rfl)]
      refine congrArg (List.cons _) (ih ?_)
      rw [joined, List.getElem?_set_self inside]
      rfl
    · rw [callsAt_cons_of_ne elsewhere]
      cases there : family[other]? with
      | none =>
        rw [tell_cons_of_none rest there]
        exact ih here
      | some asked =>
        rw [tell_cons_of_some rest there,
          List.filter_cons_of_neg (by rw [decide_eq_true_iff]; exact elsewhere)]
        refine ih ?_
        rw [joined, List.getElem?_set_ne elsewhere]
        exact here

/-- A message stays in its phase as long as no call is made that may end it. -/
theorem phase_of_mem_alone {calls : List Call} : ∀ {message : Message},
    (∀ call ∈ calls, ¬call.Ends message.phase) →
      ∀ told ∈ alone place calls message, told.asked.phase = message.phase := by
  induction calls with
  | nil => exact fun _ => List.forall_mem_nil _
  | cons call rest ih =>
    intro message lasting
    obtain ⟨lasts, others⟩ := List.forall_mem_cons.mp lasting
    have same := phase_call lasts
    rw [← same] at others
    refine List.forall_mem_cons.mpr ⟨rfl, fun told member => ?_⟩
    rw [← same]
    exact ih others told member

/-! ### Streams are taken once -/

/-- A call that takes a stream leaves none, and no call brings one about. -/
theorem takes_call (asked : Message) (call : Call) (place : Nat) :
    (if Told.takes { place, asked, call } then 1 else 0)
        + (if (asked.call call).2.isLive then 1 else 0)
      ≤ if asked.isLive then 1 else 0 := by
  obtain ⟨status, headers, cookies, body⟩ := asked
  cases body with
  | documentWith value kept => cases call <;> exact Nat.le_refl _
  | bytesWith data kept => cases call <;> exact Nat.le_refl _
  | consumed => cases call <;> exact Nat.le_refl _
  | closed => cases call <;> exact Nat.le_refl _
  | stream events length =>
    cases call with
    | memorize limit timeout =>
      have live : (Message.mk status headers cookies (.stream events length)).body
          = .stream events length := rfl
      obtain ⟨_, phase, _⟩ | ⟨_, _, phase⟩ := answersLive_memorize live limit timeout
      all_goals
        rw [isLive_eq, phase]
        exact Nat.le_refl _
    | close => exact Nat.zero_le _
    | _ => exact Nat.le_refl _

/-- **The streams that are taken were there.** -/
theorem countP_takes_le (calls : List (Nat × Call)) : ∀ family : List Message,
    (tell calls family).1.countP Told.takes + (tell calls family).2.countP isLive
      ≤ family.countP isLive := by
  induction calls with
  | nil => exact fun family => Nat.le_of_eq (Nat.zero_add _)
  | cons first rest ih =>
    obtain ⟨place, call⟩ := first
    intro family
    cases there : family[place]? with
    | none =>
      rw [tell_cons_of_none rest there]
      exact ih family
    | some asked =>
      rw [tell_cons_of_some rest there, List.countP_cons]
      obtain ⟨inside, isAsked⟩ := List.getElem?_eq_some_iff.mp there
      obtain ⟨before, after, isFamily, _, isSet⟩ :
          ∃ before after, family = before ++ family[place] :: after ∧ before.length = place ∧
            family.set place (asked.call call).2 = before ++ (asked.call call).2 :: after :=
        List.exists_of_set inside
      rw [isAsked] at isFamily
      have noCopies : (asked.call call).1.copies.countP isLive = 0 := by
        refine List.countP_eq_zero.mpr fun copy member => ?_
        obtain ⟨rfl, inMemory⟩ := eq_of_mem_copies member
        rw [isLive_of_isCloneable inMemory]
        exact Bool.false_ne_true
      have lives : (family.set place (asked.call call).2).countP isLive
          = before.countP isLive + (after.countP isLive
            + if (asked.call call).2.isLive then 1 else 0) := by
        rw [isSet, List.countP_append, List.countP_cons]
      have lived : family.countP isLive
          = before.countP isLive + (after.countP isLive + if asked.isLive then 1 else 0) := by
        rw [isFamily, List.countP_append, List.countP_cons]
      let next := family.set place (asked.call call).2 ++ (asked.call call).1.copies
      have onward : (tell rest next).1.countP Told.takes + (tell rest next).2.countP isLive
          ≤ (family.set place (asked.call call).2).countP isLive + 0 := by
        rw [← noCopies, ← List.countP_append]
        exact ih next
      have here := takes_call asked call place
      show (tell rest next).1.countP Told.takes + _ + (tell rest next).2.countP isLive ≤ _
      omega

end

/-! ### The theorem -/

/-- **How a message lives, and all of its copies**, through calls on any of them. -/
structure Lifecycle (message : Message) (calls : List (Nat × Call)) : Prop where
  /-- Every call is answered as the phase of the message that is asked has it, and what the message
  or a copy of it tells is what the message has held from the beginning. -/
  answered : ∀ told ∈ (tell calls [message]).1,
    Answered message.content? told.asked told.call told.answer told.left
  /-- A live stream is read into memory or handed out once. -/
  takenOnce : (tell calls [message]).1.countP Told.takes ≤ 1
  /-- A message is not touched by what is done to its copies, nor a copy by what is done to others:
  whatever is called next, it is told what it would be told alone. -/
  apart : ∀ place member, (tell calls [message]).2[place]? = some member → ∀ next,
    (tell next (tell calls [message]).2).1.filter (fun told => told.place = place)
      = alone place (callsAt place next) member
  /-- A phase lasts until a call on the message ends it: what is consumed stays so until it is
  closed, and what is closed forever. -/
  lasts : ∀ place member, (tell calls [message]).2[place]? = some member → ∀ next,
    (∀ call ∈ callsAt place next, ¬call.Ends member.phase) →
      ∀ told ∈ (tell next (tell calls [message]).2).1, told.place = place →
        told.asked.phase = member.phase

/-- What a message with a document holds: the bytes of the document, or none for the empty one. -/
theorem content?_ofDocument (status : Status) (headers : Headers) (value : Json) :
    (ofDocument status headers value).content? = some
      { data := match value with
          | .null => []
          | value => value.render
        document := .ok value } := by
  cases value <;> rfl

/-- **A message lives through any calls on it and on its copies.** Its bytes are those of its
document or those that it was made of, and no bytes at all read as the empty document. -/
theorem lifecycle (message : Message) (calls : List (Nat × Call)) :
    message.Lifecycle calls ∧
    (∀ status headers value, (ofDocument status headers value).content? = some
      { data := match value with
          | .null => []
          | value => value.render
        document := .ok value }) ∧
    (∀ status headers contentType data,
      (ofBytes status headers contentType data).content? = some (.ofBytes data)) ∧
    Content.ofBytes [] = { data := [], document := .ok .null } := by
  refine ⟨?_, content?_ofDocument, fun _ _ _ _ => rfl, rfl⟩
  refine { answered := ?_, takenOnce := ?_, apart := ?_, lasts := ?_ }
  · intro told member
    have keeps : ∀ (asked : Message) call,
        (∀ content, asked.content? = some content → message.content? = some content) →
          ∀ content, (asked.call call).2.content? = some content →
            message.content? = some content :=
      fun asked call held content holds => held content (content?_call holds)
    have held := (tell_keeps keeps calls
      (List.forall_mem_singleton.mpr fun content holds => holds)).1 told member
    exact (told.asked.answered told.call).mono held
  · have counted := countP_takes_le calls [message]
    have atMostOne : [message].countP isLive ≤ 1 := List.countP_le_length
    omega
  · exact fun place member here next => filter_tell next here
  · intro place member here next lasting told isTold isHere
    have atPlace : told ∈ alone place (callsAt place next) member := by
      rw [← filter_tell next here]
      exact List.mem_filter.mpr ⟨isTold, decide_eq_true isHere⟩
    exact phase_of_mem_alone lasting told atPlace

end Switchboard.Message
