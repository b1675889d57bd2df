import Switchboard.Proofs.Dispatcher.Selection
import Switchboard.Proofs.Feature.Hits
/-!
What a dispatcher decides about a request, and what comes of it.

There are five ways to refuse a request, and otherwise a feature runs for it. Which it is, is asked
in a fixed order: whether a feature is selected, whether the caller has its access, whether the body
can be read, and whether the length that is told of it is within the limit. So the body counts for
nothing before the access is known to be enough.

* `Dispatcher.Decides` says when it is which, and `Dispatcher.decides_iff` that it is always exactly
  one of them.
* `Dispatcher.Decides.refused`: a request that is refused runs no stage and changes nothing.
* `Dispatcher.Decides.executed`: any other one counts a hit of the selected feature and runs its
  stages.
-/

namespace Switchboard

variable {σ : Type}

/-- What a dispatcher decides about a request. -/
inductive Ruling (σ : Type) where
  /-- No feature serves the path. -/
  | notFound
  /-- Features serve the path, but not for the verb. -/
  | notAllowed
  /-- The caller lacks the access of the selected feature. -/
  | denied
  /-- The body cannot be read into memory. -/
  | unreadable (fault : BodyFault)
  /-- The length that is told of the body is beyond the limit. -/
  | tooLong
  /-- A feature runs for the request, of which the body is in memory now. -/
  | runs (feature : Feature σ) (memorized : Message)

namespace Ruling

/-- The code of the status by which a request is refused. -/
def code? : Ruling σ → Option Nat
  | .notFound => some 404
  | .notAllowed => some 405
  | .denied => some 403
  | .unreadable (.overflow _) => some 413
  | .unreadable (.timeout _) => some 408
  | .unreadable _ => some 400
  | .tooLong => some 413
  | .runs _ _ => none

/-- Says whether a request is refused before its body is read. -/
def isEarly : Ruling σ → Bool
  | .notFound | .notAllowed | .denied => true
  | _ => false

/-- A feature runs for a request, or the request is refused. -/
theorem runs_or_refused (ruling : Ruling σ) :
    (∃ feature memorized, ruling = .runs feature memorized) ∨
      ∃ code, ruling.code? = some code := by
  cases ruling with
  | runs feature memorized => exact Or.inl ⟨feature, memorized, rfl⟩
  | unreadable fault => exact Or.inr (by cases fault <;> exact ⟨_, rfl⟩)
  | notFound => exact Or.inr ⟨404, rfl⟩
  | notAllowed => exact Or.inr ⟨405, rfl⟩
  | denied => exact Or.inr ⟨403, rfl⟩
  | tooLong => exact Or.inr ⟨413, rfl⟩

end Ruling

namespace Dispatcher

/-- **When a dispatcher decides what about a request**, and the time that it takes. -/
inductive Decides (dispatcher : Dispatcher σ) (verb : Verb) (uri : Uri) (request : Message)
    (granted : Access) : Ruling σ → Span → Prop where
  | notFound (unselected : dispatcher.select verb uri.segments = none)
      (foreign : ∀ feature ∈ dispatcher.features, feature.serves uri.segments = false) :
      Decides dispatcher verb uri request granted .notFound Span.zero
  | notAllowed (unselected : dispatcher.select verb uri.segments = none)
      (served : ∃ feature ∈ dispatcher.features, feature.serves uri.segments = true) :
      Decides dispatcher verb uri request granted .notAllowed Span.zero
  | denied {feature : Feature σ}
      (selected : dispatcher.select verb uri.segments = some feature)
      (exceeds : granted.rank < feature.access.rank) :
      Decides dispatcher verb uri request granted .denied Span.zero
  | unreadable {feature : Feature σ} {fault : BodyFault} {left : Message} {spent : Span}
      (selected : dispatcher.select verb uri.segments = some feature)
      (permitted : feature.access.rank ≤ granted.rank)
      (failed : request.memorize dispatcher.settings.maxBytes dispatcher.settings.bodyTimeout
        = (.error fault, left, spent)) :
      Decides dispatcher verb uri request granted (.unreadable fault) spent
  | tooLong {feature : Feature σ} {memorized : Message} {spent : Span} {length : Nat}
      (selected : dispatcher.select verb uri.segments = some feature)
      (permitted : feature.access.rank ≤ granted.rank)
      (read : request.memorize dispatcher.settings.maxBytes dispatcher.settings.bodyTimeout
        = (.ok (), memorized, spent))
      (told : memorized.contentLength? = some length)
      (long : dispatcher.settings.maxBytes < length) :
      Decides dispatcher verb uri request granted .tooLong spent
  | runs {feature : Feature σ} {memorized : Message} {spent : Span}
      (selected : dispatcher.select verb uri.segments = some feature)
      (permitted : feature.access.rank ≤ granted.rank)
      (read : request.memorize dispatcher.settings.maxBytes dispatcher.settings.bodyTimeout
        = (.ok (), memorized, spent))
      (within : ∀ length, memorized.contentLength? = some length →
        length ≤ dispatcher.settings.maxBytes) :
      Decides dispatcher verb uri request granted (.runs feature memorized) spent

variable {dispatcher : Dispatcher σ} {verb : Verb} {uri : Uri} {request : Message}
  {granted : Access} {decision : Ruling σ} {spent : Span}

/-! ### Exactly one ruling -/

theorem exists_decides (dispatcher : Dispatcher σ) (verb : Verb) (uri : Uri) (request : Message)
    (granted : Access) : ∃ ruling spent,
      dispatcher.Decides verb uri request granted ruling spent := by
  cases selected : dispatcher.select verb uri.segments with
  | none =>
    by_cases served : ∃ feature ∈ dispatcher.features, feature.serves uri.segments = true
    · exact ⟨_, _, .notAllowed selected served⟩
    · refine ⟨_, _, .notFound selected fun feature member => ?_⟩
      exact Bool.eq_false_iff.mpr fun serves => served ⟨feature, member, serves⟩
  | some feature =>
    by_cases permitted : feature.access.rank ≤ granted.rank
    · rcases read : request.memorize dispatcher.settings.maxBytes dispatcher.settings.bodyTimeout
        with ⟨fault | _, memorized, spent⟩
      · exact ⟨_, _, .unreadable selected permitted read⟩
      · by_cases long : ∃ length, memorized.contentLength? = some length ∧
          dispatcher.settings.maxBytes < length
        · obtain ⟨length, told, beyond⟩ := long
          exact ⟨_, _, .tooLong selected permitted read told beyond⟩
        · refine ⟨_, _, .runs selected permitted read fun length told => ?_⟩
          exact Nat.not_lt.mp fun beyond => long ⟨length, told, beyond⟩
    · exact ⟨_, _, .denied selected (Nat.not_le.mp permitted)⟩

/-- The ruling about a request, and the time that it takes. -/
def ruling (dispatcher : Dispatcher σ) (verb : Verb) (uri : Uri) (request : Message)
    (granted : Access) : Ruling σ × Span :=
  match dispatcher.select verb uri.segments with
  | none =>
    (if (dispatcher.candidates uri.segments).isEmpty then .notFound else .notAllowed, Span.zero)
  | some feature =>
    if feature.access.rank ≤ granted.rank then
      match request.memorize dispatcher.settings.maxBytes dispatcher.settings.bodyTimeout with
      | (.error fault, _, spent) => (.unreadable fault, spent)
      | (.ok (), memorized, spent) =>
        if memorized.contentLength?.any (dispatcher.settings.maxBytes < ·) then (.tooLong, spent)
        else (.runs feature memorized, spent)
    else (.denied, Span.zero)

/-- What is decided is the ruling. -/
theorem Decides.ruling_eq
    (decided : dispatcher.Decides verb uri request granted decision spent) :
    dispatcher.ruling verb uri request granted = (decision, spent) := by
  unfold ruling
  cases decided with
  | notFound unselected foreign =>
    have nobody : (dispatcher.candidates uri.segments).isEmpty = true := by
      simpa [candidates] using foreign
    simp only [unselected, if_pos nobody]
  | notAllowed unselected served =>
    have somebody : ¬ (dispatcher.candidates uri.segments).isEmpty = true := by
      simpa [candidates] using served
    simp only [unselected, if_neg somebody]
  | denied selected exceeds =>
    simp only [selected, if_neg (Nat.not_le.mpr exceeds)]
  | unreadable selected permitted failed =>
    simp only [selected, if_pos permitted, failed]
  | tooLong selected permitted read told long =>
    simp [selected, if_pos permitted, read, told, long]
  | runs selected permitted read within =>
    have short : ¬ _ = true := fun beyond => by
      obtain ⟨length, told, long⟩ := (Option.any_eq_true _ _).mp beyond
      exact absurd (of_decide_eq_true long) (Nat.not_lt.mpr (within length told))
    simp only [selected, if_pos permitted, read, if_neg short]

/-- **Exactly one thing is decided about a request.** -/
theorem decides_iff : dispatcher.Decides verb uri request granted decision spent ↔
    dispatcher.ruling verb uri request granted = (decision, spent) := by
  refine ⟨Decides.ruling_eq, fun same => ?_⟩
  obtain ⟨other, spent', decided⟩ := dispatcher.exists_decides verb uri request granted
  cases decided.ruling_eq.symm.trans same
  exact decided

theorem decides_ruling (dispatcher : Dispatcher σ) (verb : Verb) (uri : Uri) (request : Message)
    (granted : Access) : dispatcher.Decides verb uri request granted
      (dispatcher.ruling verb uri request granted).1
      (dispatcher.ruling verb uri request granted).2 :=
  decides_iff.mpr rfl

/-! ### The gate -/

theorem permits_iff {required : Access} :
    granted.permits required = true ↔ required.rank ≤ granted.rank := by
  simp [Access.permits]

theorem status_unreadable (fault : BodyFault) :
    (Ruling.unreadable (σ := σ) fault).code? = some (unreadable fault).status.code := by
  unfold unreadable
  rw [Message.status_explain]
  cases fault <;> rfl

/-- A request that is refused does not pass the gate. -/
theorem Decides.gate_refused {code : Nat}
    (decided : dispatcher.Decides verb uri request granted decision spent)
    (isCode : decision.code? = some code) : ∃ response,
      dispatcher.gate verb uri request granted = (.refused response, spent) ∧
        response.status.code = code := by
  unfold gate
  cases decided with
  | notFound unselected foreign =>
    simp only [unselected]
    refine ⟨_, rfl, ?_⟩
    rw [← Option.some.inj isCode]
    exact (unserved_of_select_eq_none unselected).notFound_iff.mpr foreign
  | notAllowed unselected served =>
    simp only [unselected]
    refine ⟨_, rfl, ?_⟩
    rw [← Option.some.inj isCode]
    exact ((unserved_of_select_eq_none unselected).notAllowed served).1
  | denied selected exceeds =>
    have lacks : ¬ granted.permits _ = true := fun permits =>
      absurd (permits_iff.mp permits) (Nat.not_le.mpr exceeds)
    simp only [selected, if_neg lacks]
    refine ⟨_, rfl, ?_⟩
    rw [← Option.some.inj isCode, Dispatcher.denied, Message.status_explain]
    rfl
  | @unreadable _ fault _ _ selected permitted failed =>
    simp only [selected, if_pos (permits_iff.mpr permitted), failed]
    refine ⟨_, rfl, ?_⟩
    rw [status_unreadable] at isCode
    exact Option.some.inj isCode
  | tooLong selected permitted read told long =>
    have beyond : (Option.any (dispatcher.settings.maxBytes < ·) (some _)) = true :=
      decide_eq_true long
    simp only [selected, if_pos (permits_iff.mpr permitted), read, told, if_pos beyond]
    refine ⟨_, rfl, ?_⟩
    rw [← Option.some.inj isCode, Dispatcher.tooLong, Message.status_explain]
    rfl
  | runs => cases isCode

/-- Any other request passes it. -/
theorem Decides.gate_admitted {feature : Feature σ} {memorized : Message}
    (decided : dispatcher.Decides verb uri request granted (.runs feature memorized) spent) :
    dispatcher.gate verb uri request granted
      = (.admitted feature (contextOf feature verb uri granted) memorized, spent) := by
  cases decided with
  | runs selected permitted read within =>
    refine gate_admitted_iff.mpr ⟨selected, permits_iff.mpr permitted, read, ?_, rfl⟩
    refine Bool.eq_false_iff.mpr fun beyond => ?_
    obtain ⟨length, told, long⟩ := (Option.any_eq_true _ _).mp beyond
    exact absurd (of_decide_eq_true long) (Nat.not_lt.mpr (within length told))

/-- What is refused before the body is read is refused whatever the request is, and at once. -/
theorem Decides.gate_eq_of_isEarly
    (decided : dispatcher.Decides verb uri request granted decision spent)
    (early : decision.isEarly = true) (other : Message) : spent = Span.zero ∧
      dispatcher.gate verb uri other granted = dispatcher.gate verb uri request granted := by
  unfold gate
  cases decided with
  | notFound unselected => simp only [unselected, and_self]
  | notAllowed unselected => simp only [unselected, and_self]
  | denied selected exceeds =>
    have lacks : ¬ granted.permits _ = true := fun permits =>
      absurd (permits_iff.mp permits) (Nat.not_le.mpr exceeds)
    simp only [selected, if_neg lacks, and_self]
  | unreadable => cases early
  | tooLong => cases early
  | runs => cases early

/-! ### What comes of it -/

variable {scope : Scope} {world : World σ}

/-- **What comes of a request that is refused**: a response with a status, and nothing else. -/
structure Refused (dispatcher : Dispatcher σ) (verb : Verb) (uri : Uri) (request : Message)
    (granted : Access) (code : Nat) (spent : Span) (scope : Scope) (world : World σ) : Prop where
  /-- The response comes when the body was read as far as it is. -/
  answered : scope.Reaches (world.now + spent) → ∃ response,
    dispatcher.dispatch verb uri request granted scope world
      = (.done response, { world with now := world.now + spent }) ∧ response.status.code = code
  /-- No stage of any feature runs. -/
  unrun : dispatcher.stageRuns verb uri request granted scope world = []
  /-- Nothing but the time changes, also if a deadline comes first. -/
  unchanged : ∃ moment,
    (dispatcher.dispatch verb uri request granted scope world).2 = { world with now := moment }

/-- **What comes of a request that a feature runs for.** -/
structure Executed (dispatcher : Dispatcher σ) (verb : Verb) (uri : Uri) (request : Message)
    (granted : Access) (feature : Feature σ) (memorized : Message) (spent : Span) (scope : Scope)
    (world : World σ) : Prop where
  selected : dispatcher.select verb uri.segments = some feature
  /-- A hit of the feature is counted when the body has been read, and then its stages run. -/
  executes : scope.Reaches (world.now + spent) →
    dispatcher.dispatch verb uri request granted scope world
      = feature.runStages (contextOf feature verb uri granted) memorized scope
          (World.hit { world with now := world.now + spent } feature.counter)
  /-- The stages that run are stages of the feature, and there is one. -/
  ran : scope.Reaches (world.now + spent) →
    dispatcher.stageRuns verb uri request granted scope world ≠ [] ∧
      ∀ run ∈ dispatcher.stageRuns verb uri request granted scope world, run.feature = feature
  /-- What the handlers of the feature leave as it is stays as it is after the hit. -/
  kept : ∀ related, [World.Frame related] → feature.Keeps related →
    scope.Reaches (world.now + spent) →
      related (World.hit { world with now := world.now + spent } feature.counter)
        (dispatcher.dispatch verb uri request granted scope world).2
  /-- If a deadline comes before the body has been read, nothing runs and nothing is counted. -/
  cutOff : ¬ scope.Reaches (world.now + spent) →
    dispatcher.stageRuns verb uri request granted scope world = [] ∧ ∃ moment,
      dispatcher.dispatch verb uri request granted scope world
        = (.expired, { world with now := moment })

/-- A request that does not pass the gate. -/
theorem refused_of_gate {response : Message}
    (refuses : dispatcher.gate verb uri request granted = (.refused response, spent))
    (scope : Scope) (world : World σ) : dispatcher.Refused verb uri request granted
      response.status.code spent scope world := by
  have answers : dispatcher.dispatch verb uri request granted
      = Activity.wait spent >>= fun _ => pure response := by
    unfold dispatch
    rw [refuses]
  refine ⟨fun reaches => ⟨response, ?_, rfl⟩, ?_, ?_⟩
  · have waited := Activity.wait_of_reaches reaches
    rw [answers, Activity.bind_of_done (congrArg Prod.fst waited), waited]
    rfl
  · refine List.eq_nil_iff_forall_not_mem.mpr fun run member => ?_
    obtain ⟨_, _, _, _, admitted, -⟩ := of_mem_stageRuns member
    rw [refuses] at admitted
    cases admitted
  · rw [answers, Activity.bind_world_of_still fun _ _ _ => rfl]
    by_cases reaches : scope.Reaches (world.now + spent)
    · exact ⟨_, congrArg Prod.snd (Activity.wait_of_reaches reaches)⟩
    · obtain ⟨moment, cut⟩ := Activity.wait_of_not_reaches reaches
      exact ⟨moment, congrArg Prod.snd cut⟩

theorem Decides.refused {code : Nat}
    (decided : dispatcher.Decides verb uri request granted decision spent)
    (isCode : decision.code? = some code) (scope : Scope) (world : World σ) :
    dispatcher.Refused verb uri request granted code spent scope world := by
  obtain ⟨response, refuses, rfl⟩ := decided.gate_refused isCode
  exact refused_of_gate refuses scope world

theorem Decides.executed {feature : Feature σ} {memorized : Message}
    (decided : dispatcher.Decides verb uri request granted (.runs feature memorized) spent)
    (scope : Scope) (world : World σ) :
    dispatcher.Executed verb uri request granted feature memorized spent scope world := by
  have admits := decided.gate_admitted
  have answers : dispatcher.dispatch verb uri request granted = Activity.wait spent >>= fun _ =>
      feature.execute (contextOf feature verb uri granted) memorized := by
    unfold dispatch
    rw [admits]
  have executes : scope.Reaches (world.now + spent) →
      dispatcher.dispatch verb uri request granted scope world
        = feature.runStages (contextOf feature verb uri granted) memorized scope
            (World.hit { world with now := world.now + spent } feature.counter) := by
    intro reaches
    have waited := Activity.wait_of_reaches reaches
    rw [answers, Activity.bind_of_done (congrArg Prod.fst waited), waited]
    exact feature.execute_apply _ memorized scope _
  refine ⟨(gate_admitted_iff.mp admits).1, executes, fun reaches => ⟨?_, ?_⟩, ?_, ?_⟩
  · obtain ⟨run, member, -⟩ := exists_mem_stageRuns admits reaches
    exact List.ne_nil_of_mem member
  · intro run member
    obtain ⟨_, _, _, _, admitted, -, same, -⟩ := of_mem_stageRuns member
    rw [admits] at admitted
    cases admitted
    exact same
  · intro related frame keeps reaches
    rw [executes reaches]
    exact Feature.runStages_keeps keeps _ memorized scope _
  · intro late
    refine ⟨List.eq_nil_iff_forall_not_mem.mpr fun run member => ?_, ?_⟩
    · obtain ⟨_, _, _, _, admitted, reaches, -⟩ := of_mem_stageRuns member
      rw [admits] at admitted
      cases admitted
      exact late reaches
    · obtain ⟨moment, cut⟩ := Activity.wait_of_not_reaches late
      rw [answers]
      exact ⟨moment, Activity.bind_of_cut cut⟩

theorem Executed.mem {feature : Feature σ} {memorized : Message}
    (executed : dispatcher.Executed verb uri request granted feature memorized spent scope world) :
    feature ∈ dispatcher.features :=
  (List.mem_filter.mp (select_eq_some_iff.mp executed.selected).mem).1

end Dispatcher

end Switchboard
