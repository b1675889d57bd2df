import Switchboard.Proofs.Activity.Pairs
import Switchboard.Proofs.Feature.StageRuns
import Switchboard.Proofs.Message.Forms
/-!
Features that do not tell the forms of a request apart.

Two requests read alike if they hold the same bytes, the same document and the same cookies. They may
still differ in their headers, and in what their bodies are made of and keep. A feature of which no
stage asks for headers or for a copy of the request cannot tell them apart.

* `Message.ReadsAs`: two requests in memory that read alike.
* `Plan.extract_readsAs`: a plan that is blind to forms finds the same in both, and leaves requests
  that read alike.
* `Feature.loggedExecute_inStep`: a feature that is blind to forms does the same for both, and every
  stage receives the same.
-/

namespace Switchboard

variable {σ : Type}

/-! ### Requests that read alike -/

/-- **Two requests in memory read alike.** -/
structure Message.ReadsAs (one other : Message) : Prop where
  inMemory : one.isCloneable = true ∧ other.isCloneable = true
  bytes : one.bytes = other.bytes
  document : one.document = other.document
  cookies : one.cookies = other.cookies
  written : one.headers.getAll cookieHeader = other.headers.getAll cookieHeader

namespace Message.ReadsAs

variable {one other : Message}

/-- Messages that hold one document read alike. -/
theorem of_holds {headers : Headers} {value : Json} (holds : one.Holds headers value)
    (holds' : other.Holds headers value) : one.ReadsAs other where
  inMemory := ⟨isCloneable_of_bytes holds.bytes, isCloneable_of_bytes holds'.bytes⟩
  bytes := holds.bytes.trans holds'.bytes.symm
  document := holds.document.trans holds'.document.symm
  cookies := holds.cookies.trans holds'.cookies.symm
  written := holds.written.trans holds'.written.symm

/-- Reading alike does not depend on what the bodies keep. -/
theorem congr {one' other' : Message} (alike : one.ReadsAs other) (same : one'.fresh = one.fresh)
    (same' : other'.fresh = other.fresh) : one'.ReadsAs other' where
  inMemory := ⟨(isCloneable_congr same).trans alike.inMemory.1,
    (isCloneable_congr same').trans alike.inMemory.2⟩
  bytes := (bytes_congr same).trans (alike.bytes.trans (bytes_congr same').symm)
  document := (document_congr same).trans (alike.document.trans (document_congr same').symm)
  cookies := (cookies_congr same).trans (alike.cookies.trans (cookies_congr same').symm)
  written := by rw [headers_congr same, headers_congr same', alike.written]

variable (alike : one.ReadsAs other)

include alike

theorem string : one.string = other.string := by
  show one.bytes.bind readText = other.bytes.bind readText
  rw [alike.bytes]

theorem stream : one.takeStream.1 = other.takeStream.1 := by
  obtain ⟨data, read⟩ := bytes_of_isCloneable alike.inMemory.1
  rw [takeStream_of_bytes read, takeStream_of_bytes (alike.bytes.symm.trans read)]

theorem cookie? (name : String) : one.cookie? name = other.cookie? name := by
  unfold Message.cookie? writtenCookies
  rw [alike.cookies, alike.written]

end Message.ReadsAs

/-- What is left of requests that read alike, with the same response of the stage before. -/
structure Pending.ReadsAs (one other : Pending) : Prop where
  request : one.request.ReadsAs other.request
  previous : one.previous = other.previous

/-! ### What is found in them -/

/-- **Says whether an extractor sees more of a request than what it holds**: its headers, or the
message itself. -/
def Extractor.seesForm : Extractor → Bool
  | .header _ _ | .request => true
  | _ => false

section

variable {one other : Pending}

theorem BodyKind.extract_readsAs (kind : BodyKind) (name : String) (alike : one.request.ReadsAs other.request) :
    (kind.extract name one.request).1 = (kind.extract name other.request).1 := by
  rw [extract_fst, extract_fst]
  cases kind with
  | document => simp only [alike.document]
  | text => simp only [alike.string]
  | bytes => simp only [alike.bytes]
  | stream => simp only [alike.stream]

/-- An extractor that is blind to forms finds the same, and leaves what reads alike. -/
theorem Extractor.extract_readsAs {extractor : Extractor} (blind : extractor.seesForm = false)
    (name : String) (context : Context) (alike : one.ReadsAs other) :
    (extractor.extract name context one).1 = (extractor.extract name context other).1 ∧
      (extractor.extract name context one).2.ReadsAs (extractor.extract name context other).2 := by
  have left : (extractor.extract name context one).2.ReadsAs
      (extractor.extract name context other).2 := by
    refine ⟨alike.request.congr ?_ ?_, ?_⟩
    · exact extractor.fresh_extract name context alike.request.inMemory.1
    · exact extractor.fresh_extract name context alike.request.inMemory.2
    · rw [previous_extract, previous_extract, alike.previous]
  refine ⟨?_, left⟩
  cases extractor with
  | header key kind => cases blind
  | request => cases blind
  | cookieValue key =>
    exact congrArg (fun found => Except.ok (Argument.text (Option.map Cookie.value found)))
      (alike.request.cookie? key)
  | cookie key =>
    exact congrArg (fun found => Except.ok (Argument.cookie found)) (alike.request.cookie? key)
  | body kind => exact kind.extract_readsAs name alike.request
  | response => exact congrArg (fun found => Except.ok (Argument.response found)) alike.previous
  | _ => rfl

end

namespace Plan

/-- A plan is blind to forms. -/
def Blind (plan : Plan) : Prop := ∀ binding ∈ plan.bindings, binding.extractor.seesForm = false

instance (plan : Plan) : Decidable plan.Blind :=
  inferInstanceAs (Decidable (∀ binding ∈ plan.bindings, binding.extractor.seesForm = false))

theorem extractAll_readsAs (context : Context) {bindings : List Binding}
    (blind : ∀ binding ∈ bindings, binding.extractor.seesForm = false) :
    ∀ {one other : Pending}, one.ReadsAs other →
      (extractAll context bindings one).1 = (extractAll context bindings other).1 ∧
        (extractAll context bindings one).2.ReadsAs (extractAll context bindings other).2 := by
  induction bindings with
  | nil => exact fun alike => ⟨rfl, alike⟩
  | cons binding rest ih =>
    intro one other alike
    obtain ⟨first, others⟩ := List.forall_mem_cons.mp blind
    obtain ⟨found, left⟩ := Extractor.extract_readsAs first binding.name context alike
    rcases ran : binding.extractor.extract binding.name context one with ⟨result, after⟩
    rcases ran' : binding.extractor.extract binding.name context other with ⟨result', after'⟩
    rw [ran, ran'] at found left
    cases found
    cases result with
    | error fault =>
      rw [extractAll_cons_of_error rest ran, extractAll_cons_of_error rest ran']
      exact ⟨rfl, left⟩
    | ok argument =>
      obtain ⟨later, last⟩ := ih others left
      rw [extractAll_cons_of_ok rest ran, extractAll_cons_of_ok rest ran', later]
      exact ⟨rfl, last⟩

/-- **A plan that is blind to forms** finds the same in requests that read alike. -/
theorem extract_readsAs {plan : Plan} (blind : plan.Blind) (context : Context) {one other : Pending}
    (alike : one.ReadsAs other) :
    (plan.extract context one).1 = (plan.extract context other).1 ∧
      (plan.extract context one).2.ReadsAs (plan.extract context other).2 := by
  obtain ⟨found, left⟩ := extractAll_readsAs context blind alike
  rw [extract_fst, extract_fst, extract_snd, extract_snd, found]
  exact ⟨rfl, left⟩

end Plan

/-! ### What stages do with it -/

/-- What a stage receives: the arguments that are found for it, or why there are none. -/
structure Received (σ : Type) where
  feature : Feature σ
  stage : Stage σ
  context : Context
  arguments : Except FeatureFault Arguments

/-- What a stage that runs receives. -/
def StageRun.received (run : StageRun σ) : Received σ :=
  { feature := run.feature, stage := run.stage, context := run.context
    arguments := (run.stage.plan.extract run.context run.pending).1 }

/-- What a stage answers, given what was found for it. -/
def Stage.respond (stage : Stage σ) : Except FeatureFault Arguments → Activity σ Message
  | .error fault => pure fault.response
  | .ok arguments => do
    let outcome ← Activity.attempt (stage.handler arguments)
    return answer outcome

/-- A stage is given what is found for it, and no more. -/
theorem Stage.run_eq (stage : Stage σ) (context : Context) (pending : Pending) :
    stage.run context pending = (do
      let response ← stage.respond (stage.plan.extract context pending).1
      return (response, (stage.plan.extract context pending).2)) := by
  unfold run
  rcases stage.plan.extract context pending with ⟨fault | arguments, left⟩
  · rfl
  · simp only [respond, bind_assoc, pure_bind]

namespace Feature

/-- **A feature is blind to forms** if the plans of all its stages are. -/
def Blind (feature : Feature σ) : Prop :=
  ∀ stage ∈ feature.prologues ++ feature.main :: feature.epilogues, stage.plan.Blind

instance (feature : Feature σ) : Decidable feature.Blind :=
  inferInstanceAs (Decidable (∀ stage ∈ feature.prologues ++ feature.main :: feature.epilogues,
    stage.plan.Blind))

/-- Answers that are the same, and what is left reads alike. -/
def SameAnswer (one other : Message × Pending) : Prop := one.1 = other.1 ∧ one.2.ReadsAs other.2

/-- Prologues that end in the same answer, or leave requests that read alike. -/
inductive SameCourse : Except Message Message → Except Message Message → Prop where
  | stopped (response : Message) : SameCourse (.error response) (.error response)
  | passed {one other : Message} (alike : one.ReadsAs other) : SameCourse (.ok one) (.ok other)

variable {feature : Feature σ} {context : Context}

theorem loggedStage_inStep {stage : Stage σ} (blind : stage.plan.Blind) {one other : Pending}
    (alike : one.ReadsAs other) :
    (feature.loggedStage stage context one).InStep StageRun.received SameAnswer
      (feature.loggedStage stage context other) := by
  obtain ⟨found, left⟩ := Plan.extract_readsAs blind context alike
  refine .bind (.note fun _ _ => ?_) fun _ _ _ => ?_
  · unfold StageRun.received
    simp only [found]
  · rw [stage.run_eq, stage.run_eq, found, Logged.of_bind, Logged.of_bind]
    refine .bind (.of _) fun response response' same => ?_
    exact .pure ⟨same, left⟩

theorem loggedPrologues_inStep {stages : List (Stage σ)}
    (blind : ∀ stage ∈ stages, stage.plan.Blind) : ∀ {one other : Message}, one.ReadsAs other →
      (feature.loggedPrologues context stages one).InStep StageRun.received SameCourse
        (feature.loggedPrologues context stages other) := by
  induction stages with
  | nil => exact fun alike => .pure (.passed alike)
  | cons stage rest ih =>
    intro one other alike
    obtain ⟨first, others⟩ := List.forall_mem_cons.mp blind
    refine .bind (loggedStage_inStep first ⟨alike, rfl⟩) ?_
    rintro ⟨response, pending⟩ ⟨response', pending'⟩ ⟨same, left⟩
    cases (same : response = response')
    simp only
    split
    · exact ih others left.request
    · exact .pure (.stopped response)

theorem loggedEpilogues_inStep {stages : List (Stage σ)}
    (blind : ∀ stage ∈ stages, stage.plan.Blind) :
    ∀ {one other : Message}, one.ReadsAs other → ∀ response,
      (feature.loggedEpilogues context stages one response).InStep StageRun.received Eq
        (feature.loggedEpilogues context stages other response) := by
  induction stages with
  | nil => exact fun _ _ => .pure rfl
  | cons stage rest ih =>
    intro one other alike response
    obtain ⟨first, others⟩ := List.forall_mem_cons.mp blind
    refine .bind (loggedStage_inStep first ⟨alike, rfl⟩) ?_
    rintro ⟨response, pending⟩ ⟨response', pending'⟩ ⟨same, left⟩
    cases (same : response = response')
    exact ih others left.request response

/-- **A feature that is blind to forms** does the same for requests that read alike, and its stages
receive the same. -/
theorem loggedExecute_inStep (blind : feature.Blind) {one other : Message}
    (alike : one.ReadsAs other) :
    (feature.loggedExecute context one).InStep StageRun.received Eq
      (feature.loggedExecute context other) := by
  have prologues : ∀ stage ∈ feature.prologues, stage.plan.Blind :=
    fun stage member => blind stage (List.mem_append_left _ member)
  have main : feature.main.plan.Blind :=
    blind feature.main (List.mem_append_right _ List.mem_cons_self)
  have epilogues : ∀ stage ∈ feature.epilogues, stage.plan.Blind :=
    fun stage member => blind stage (List.mem_append_right _ (List.mem_cons_of_mem _ member))
  refine .bind (.of _) fun _ _ _ => ?_
  refine .bind (loggedPrologues_inStep prologues alike) fun course course' same => ?_
  cases same with
  | stopped response => exact .pure rfl
  | passed alike =>
    refine .bind (loggedStage_inStep main ⟨alike, rfl⟩) ?_
    rintro ⟨response, pending⟩ ⟨response', pending'⟩ ⟨sameResponse, left⟩
    cases (sameResponse : response = response')
    exact loggedEpilogues_inStep epilogues left.request response

end Feature

end Switchboard
