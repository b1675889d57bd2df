import Switchboard.Proofs.Dispatcher.Selection
import Switchboard.Proofs.Dispatcher.StageRuns
import Switchboard.Proofs.Feature.Forms
/-!
A document is answered alike in every form.

A request may carry its document as it is, as bytes, or as a stream in any pieces. The form decides
how its size is checked: a stream is refused while it is read, and what is in memory is measured
before a feature runs. Both checks have the same limit, and what passes them holds the same.

* `Dispatcher.gate_of_carries`: a request that carries a document within the limit is admitted with
  it, and one that carries a longer one is refused as too large, whatever the form.
* `Dispatcher.TreatsAlike` and `Dispatcher.dispatch_alike_of_carries`: two requests that carry one
  document are answered alike, by the same feature, whose stages receive the same.
-/

namespace Switchboard

variable {σ : Type}

/-! ### The gate -/

/-- The feature that a request is admitted to, if it is. -/
def Admission.feature? : Admission σ → Option (Feature σ)
  | .refused _ => none
  | .admitted feature _ _ => some feature

/-- **Two admissions are in step**: both requests are refused with related responses, or both are
admitted to one feature, and read alike. -/
inductive Admission.InStep (related : Message → Message → Prop) :
    Admission σ → Admission σ → Prop where
  | refused {one other : Message} (holds : related one other) :
      InStep related (.refused one) (.refused other)
  | admitted (feature : Feature σ) (context : Context) {one other : Message}
      (alike : one.ReadsAs other) :
      InStep related (.admitted feature context one) (.admitted feature context other)

/-- Responses with one status, that are the same if a document of some length is within a limit. -/
def Message.AnswersAs (length limit : Nat) (one other : Message) : Prop :=
  one.status = other.status ∧ (length ≤ limit → one = other)

theorem Message.AnswersAs.refl (length limit : Nat) (message : Message) :
    message.AnswersAs length limit message :=
  ⟨rfl, fun _ => rfl⟩

namespace Dispatcher

section

variable {dispatcher : Dispatcher σ} {verb : Verb} {uri : Uri} {granted : Access}
  {headers : Headers} {value : Json} {one other : Message}

/-- **A document that gets to a feature** is admitted within the limit and refused beyond it, at
once, in whatever form it comes. -/
theorem gate_of_carries (carries : one.Carries headers value)
    (unannounced : headers.contains Headers.contentLengthName = false) (something : value ≠ .null)
    (reads : Json.parsing value.render = .ok value) {feature : Feature σ}
    (selected : dispatcher.select verb uri.segments = some feature)
    (permitted : granted.permits feature.access = true) :
    (value.render.length ≤ dispatcher.settings.maxBytes ∧ ∃ memorized : Message,
      memorized.Holds headers value ∧ dispatcher.gate verb uri one granted
        = (.admitted feature (contextOf feature verb uri granted) memorized, Span.zero)) ∨
    (dispatcher.settings.maxBytes < value.render.length ∧ ∃ response : Message,
      response.status = .tooLarge ∧
        dispatcher.gate verb uri one granted = (.refused response, Span.zero)) := by
  rcases carries.memorize unannounced something reads dispatcher.settings.maxBytes
      dispatcher.settings.bodyTimeout with ⟨memorized, read, holds⟩ | ⟨long, left, failed⟩
  · have told : memorized.contentLength?.any (dispatcher.settings.maxBytes < ·)
        = decide (dispatcher.settings.maxBytes < value.render.length) := by
      rw [holds.length]
      rfl
    by_cases within : value.render.length ≤ dispatcher.settings.maxBytes
    · refine Or.inl ⟨within, memorized, holds, gate_admitted_iff.mpr ⟨selected, permitted, read, ?_,
        rfl⟩⟩
      rw [told]
      exact decide_eq_false (Nat.not_lt.mpr within)
    · refine Or.inr ⟨Nat.not_le.mp within, tooLong dispatcher.settings.maxBytes,
        Message.status_explain _ _, ?_⟩
      simp only [gate, selected, permitted, read, told, decide_eq_true (Nat.not_le.mp within),
        if_true]
  · refine Or.inr ⟨long, unreadable (.overflow dispatcher.settings.maxBytes),
      Message.status_explain _ _, ?_⟩
    simp only [gate, selected, permitted, failed, if_true]

/-- **Requests that carry one document go alike through the gate.** -/
theorem gates_inStep (carries : one.Carries headers value) (carries' : other.Carries headers value)
    (unannounced : headers.contains Headers.contentLengthName = false) (something : value ≠ .null)
    (reads : Json.parsing value.render = .ok value) (dispatcher : Dispatcher σ) (verb : Verb)
    (uri : Uri) (granted : Access) :
    (dispatcher.gate verb uri one granted).1.InStep
        (Message.AnswersAs value.render.length dispatcher.settings.maxBytes)
        (dispatcher.gate verb uri other granted).1 ∧
      (dispatcher.gate verb uri one granted).2 = (dispatcher.gate verb uri other granted).2 := by
  cases selected : dispatcher.select verb uri.segments with
  | none =>
    simp only [gate, selected, and_true]
    exact .refused (.refl _ _ _)
  | some feature =>
    by_cases permitted : granted.permits feature.access = true
    · rcases gate_of_carries carries unannounced something reads selected permitted with
        ⟨within, memorized, holds, admits⟩ | ⟨long, response, status, refuses⟩
      · rcases gate_of_carries carries' unannounced something reads selected permitted with
          ⟨_, memorized', holds', admits'⟩ | ⟨long, _⟩
        · rw [admits, admits']
          exact ⟨.admitted feature _ (.of_holds holds holds'), rfl⟩
        · exact absurd within (Nat.not_le.mpr long)
      · rcases gate_of_carries carries' unannounced something reads selected permitted with
          ⟨within, _⟩ | ⟨_, response', status', refuses'⟩
        · exact absurd within (Nat.not_le.mpr long)
        · rw [refuses, refuses']
          exact ⟨.refused ⟨status.trans status'.symm, fun within =>
            absurd within (Nat.not_le.mpr long)⟩, rfl⟩
    · simp only [gate, selected, if_neg permitted, and_true]
      exact .refused (.refl _ _ _)

/-- What goes alike through the gate is in step from there on. -/
theorem loggedDispatch_inStep {related : Message → Message → Prop}
    (reflexive : ∀ message, related message message)
    (blind : ∀ feature ∈ dispatcher.features, feature.Blind)
    (gates : (dispatcher.gate verb uri one granted).1.InStep related
        (dispatcher.gate verb uri other granted).1 ∧
      (dispatcher.gate verb uri one granted).2 = (dispatcher.gate verb uri other granted).2) :
    (dispatcher.loggedDispatch verb uri one granted).InStep StageRun.received related
      (dispatcher.loggedDispatch verb uri other granted) := by
  obtain ⟨admissions, times⟩ := gates
  unfold loggedDispatch
  rcases admits : dispatcher.gate verb uri one granted with ⟨admission, spent⟩
  rcases admits' : dispatcher.gate verb uri other granted with ⟨admission', spent'⟩
  rw [admits, admits'] at admissions times
  cases times
  refine .bind (.of _) fun _ _ _ => ?_
  cases admissions with
  | refused holds => exact .pure holds
  | admitted feature context alike =>
    have selected := (gate_admitted_iff.mp admits).1
    have member := (List.mem_filter.mp (select_eq_some_iff.mp selected).mem).1
    exact (Feature.loggedExecute_inStep (blind feature member) alike).mono
      fun response _ same => same ▸ reflexive response

/-! ### The theorem -/

/-- **A dispatcher treats two requests alike** that carry one document. -/
structure TreatsAlike (dispatcher : Dispatcher σ) (verb : Verb) (uri : Uri) (granted : Access)
    (value : Json) (one other : Message) : Prop where
  /-- Both are answered with one status, at the same time, in the same world, or not at all. -/
  status : Message.status <$> dispatcher.dispatch verb uri one granted
    = Message.status <$> dispatcher.dispatch verb uri other granted
  /-- All of the answer is the same, unless the document is longer than the limit. -/
  answer : value.render.length ≤ dispatcher.settings.maxBytes →
    dispatcher.dispatch verb uri one granted = dispatcher.dispatch verb uri other granted
  /-- The same feature is executed, if one is. -/
  feature : (dispatcher.gate verb uri one granted).1.feature?
    = (dispatcher.gate verb uri other granted).1.feature?
  /-- The same stages run, and receive the same arguments. -/
  received : ∀ scope world,
    (dispatcher.stageRuns verb uri one granted scope world).map StageRun.received
      = (dispatcher.stageRuns verb uri other granted scope world).map StageRun.received
  /-- Every stage finds the document in its request, and the bytes, also as a stream. -/
  found : ∀ scope world, ∀ run ∈ dispatcher.stageRuns verb uri one granted scope world,
    run.pending.request.document = .ok value ∧ run.pending.request.bytes = .ok value.render ∧
      run.pending.request.takeStream.1 = .ok [.bytes value.render]

/-- What a stage finds in a request that carries a document. -/
theorem found_of_carries (carries : one.Carries headers value)
    (unannounced : headers.contains Headers.contentLengthName = false) (something : value ≠ .null)
    (reads : Json.parsing value.render = .ok value) {scope : Scope} {world : World σ}
    {run : StageRun σ} (member : run ∈ dispatcher.stageRuns verb uri one granted scope world) :
    run.pending.request.document = .ok value ∧ run.pending.request.bytes = .ok value.render ∧
      run.pending.request.takeStream.1 = .ok [.bytes value.render] := by
  obtain ⟨feature, context, memorized, spent, admitted, _, _, _, same⟩ := of_mem_stageRuns member
  obtain ⟨_, _, read, _⟩ := gate_admitted_iff.mp admitted
  have holds : memorized.Holds headers value := by
    rcases carries.memorize unannounced something reads dispatcher.settings.maxBytes
        dispatcher.settings.bodyTimeout with ⟨_, read', holds⟩ | ⟨_, _, failed⟩
    · rw [read] at read'
      cases read'
      exact holds
    · rw [read] at failed
      cases failed
  have bytes := (Message.bytes_congr same).trans holds.bytes
  exact ⟨(Message.document_congr same).trans holds.document, bytes,
    Message.takeStream_of_bytes bytes⟩

/-- **A document is answered alike in every form**, by every dispatcher whose features are blind to
forms: sent as it is, as the bytes that it is written in, or as a stream of any pieces of them, with
its length announced or not. -/
theorem dispatch_alike_of_carries (dispatcher : Dispatcher σ)
    (blind : ∀ feature ∈ dispatcher.features, feature.Blind) (verb : Verb) (uri : Uri)
    (granted : Access) (carries : one.Carries headers value) (carries' : other.Carries headers value)
    (unannounced : headers.contains Headers.contentLengthName = false) (something : value ≠ .null)
    (reads : Json.parsing value.render = .ok value) :
    dispatcher.TreatsAlike verb uri granted value one other := by
  have gates := gates_inStep carries carries' unannounced something reads dispatcher verb uri granted
  have inStep := loggedDispatch_inStep (Message.AnswersAs.refl _ _) blind gates
  refine
    { status := ?_
      answer := fun within => ?_
      feature := ?_
      received := fun scope world => (inStep scope world).2.2
      found := fun _ _ _ member => found_of_carries carries unannounced something reads member }
  · rw [← plain_loggedDispatch, ← plain_loggedDispatch]
    exact (inStep.mono fun _ _ alike => alike.1).map_plain_eq
  · rw [← plain_loggedDispatch, ← plain_loggedDispatch]
    exact (inStep.mono fun _ _ alike => alike.2 within).plain_eq
  · obtain ⟨admissions, _⟩ := gates
    generalize (dispatcher.gate verb uri one granted).1 = admission at admissions
    generalize (dispatcher.gate verb uri other granted).1 = admission' at admissions
    cases admissions <;> rfl

end

/-! ### An order in two forms -/

/-- An order of two items. -/
def order : Json := .list [.text "tea", .text "café"]

/-- A counter that checks an order, takes it down, and adds to its own response. -/
def orderCounter : Dispatcher Unit :=
  { place := "", settings := { maxBytes := 64, bodyTimeout := Span.ofSeconds 60 }, registered := 1
    features :=
      [{ service := "counter", verb := some .post, access := .anyone, description := none
         signature := { written := "orders", places := [.constant "orders"], extent := .atMost 0 }
         counter := { place := "", number := 0 }
         prologues :=
          [{ name := "check", plan := ⟨[⟨"order", .body .document⟩]⟩
             handler := fun _ => return .ok .ok }]
         main :=
          { name := "take", plan := ⟨[⟨"text", .body .text⟩, ⟨"stream", .body .stream⟩]⟩
            handler := fun arguments => return .ok (.okText ((arguments.text? "text").getD "")) }
         epilogues :=
          [{ name := "sign", plan := ⟨[⟨"taken", .response⟩, ⟨"bytes", .body .bytes⟩]⟩
             handler := fun arguments => return .ok (arguments.takeResponse.1.getD .ok) }] }] }

/-- The place where orders are sent. -/
def ordersUri : Uri :=
  { scheme := "local", authority := none, dotted := false, path := .segments ["orders"]
    query := none, fragment := none }

/-- An order is taken down from a document as from a stream that is cut within a character. -/
theorem orderCounter_alike :
    (∀ feature ∈ orderCounter.features, feature.Blind) ∧
    order ≠ .null ∧ Json.parsing order.render = .ok order ∧
    Headers.empty.contains Headers.contentLengthName = false ∧
    orderCounter.TreatsAlike .post ordersUri .anyone order (.okDocument order)
      (.ofStream .ok Headers.empty Message.mimeJson
        ([order.render.take 12, order.render.drop 12].map .bytes) none) ∧
    (orderCounter.gate .post ordersUri (.okDocument order) .anyone).1.feature?.isSome = true := by
  have blind : ∀ feature ∈ orderCounter.features, feature.Blind := by decide
  have something : order ≠ .null := nofun
  have reads : Json.parsing order.render = .ok order := by rfl
  have whole : [order.render.take 12, order.render.drop 12].flatten = order.render := by
    rw [List.flatten_cons, List.flatten_singleton, List.take_append_drop]
  exact ⟨blind, something, reads, rfl,
    dispatch_alike_of_carries orderCounter blind .post ordersUri .anyone .document
      (.stream whole (Or.inl rfl)) rfl something reads, by decide +kernel⟩

end Dispatcher

end Switchboard
