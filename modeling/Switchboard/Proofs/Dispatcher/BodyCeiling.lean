import Switchboard.Proofs.Dispatcher.StageRuns
/-!
How long a body a stage can read.

The limit of a dispatcher is kept in two ways. A stream is read into memory within the limit. A body
that is in memory already is measured by the length that its message tells, and that is the length
of the body only if no header announces another one: a message understates its body if the body is
longer than the limit and a header announces a length that is not.

* `Dispatcher.length_of_gate`: what is admitted is within the limit, or was understated.
* `Dispatcher.stageRuns_within_limit_iff`: every stage that runs reads a body within the limit, just
  if no request that understates its body gets to a feature.
-/

namespace Switchboard

/-- A body in memory that is longer than a limit, with a header that announces a length within it. -/
def Message.Understates (message : Message) (limit : Nat) : Prop :=
  ∃ data announced, message.bytes = .ok data ∧ limit < data.length ∧
    message.headers.contentLength? = some announced ∧ announced ≤ limit

/-- A body is too long while its message tells a length within the limit just if it is understated. -/
theorem Message.understates_iff {message : Message} {limit : Nat} {data : Text.Bytes}
    (read : message.bytes = .ok data) :
    message.Understates limit ↔ limit < data.length ∧
      message.contentLength?.any (limit < ·) = false := by
  unfold Understates contentLength?
  rw [length_of_bytes read]
  constructor
  · rintro ⟨other, announced, sameRead, long, header, within⟩
    rw [read] at sameRead
    cases sameRead
    refine ⟨long, ?_⟩
    rw [header]
    exact decide_eq_false (Nat.not_lt.mpr within)
  · rintro ⟨long, told⟩
    cases header : message.headers.contentLength? with
    | none =>
      rw [header] at told
      exact absurd long (of_decide_eq_false told)
    | some announced =>
      rw [header] at told
      exact ⟨data, announced, read, long, rfl, Nat.not_lt.mp (of_decide_eq_false told)⟩

namespace Dispatcher

variable {σ : Type}

/-- The body of a request that is admitted is within the limit unless it was understated. -/
theorem length_of_gate {dispatcher : Dispatcher σ} {verb : Verb} {uri : Uri}
    {request memorized : Message} {granted : Access} {feature : Feature σ} {context : Context}
    {spent : Span}
    (admitted : dispatcher.gate verb uri request granted
      = (.admitted feature context memorized, spent))
    (honest : ¬ request.Understates dispatcher.settings.maxBytes) :
    ∃ data, memorized.bytes = .ok data ∧ data.length ≤ dispatcher.settings.maxBytes := by
  obtain ⟨_, _, read, told, _⟩ := gate_admitted_iff.mp admitted
  rcases Message.memorize_ok read with ⟨inMemory, rfl, _⟩ | ⟨_, data, body, within⟩
  · obtain ⟨data, bytes⟩ := Message.bytes_of_isCloneable inMemory
    refine ⟨data, bytes, Nat.not_lt.mp fun long => honest ?_⟩
    exact (Message.understates_iff bytes).mpr ⟨long, told⟩
  · exact ⟨data, Message.bytes_of_body body, within⟩

/-- A request that understates its body is admitted as it is. -/
theorem gate_of_understates {dispatcher : Dispatcher σ} {verb : Verb} {uri : Uri}
    {request : Message} {granted : Access} {feature : Feature σ}
    (understates : request.Understates dispatcher.settings.maxBytes)
    (selected : dispatcher.select verb uri.segments = some feature)
    (permitted : granted.permits feature.access = true) :
    dispatcher.gate verb uri request granted
      = (.admitted feature (contextOf feature verb uri granted) request, Span.zero) := by
  obtain ⟨data, announced, bytes, _⟩ := id understates
  have inMemory := Message.isCloneable_of_bytes bytes
  exact gate_admitted_iff.mpr ⟨selected, permitted, Message.memorize_of_isCloneable inMemory _ _,
    ((Message.understates_iff bytes).mp understates).2, rfl⟩

/-- **Every stage that runs reads a body within the limit**, just if the request does not understate
its body, or there is no feature that it gets to, or no time for it. -/
theorem stageRuns_within_limit_iff (dispatcher : Dispatcher σ) (verb : Verb) (uri : Uri)
    (request : Message) (granted : Access) (scope : Scope) (world : World σ) :
    (∀ run ∈ dispatcher.stageRuns verb uri request granted scope world,
      ∃ data, run.pending.request.bytes = .ok data ∧
        data.length ≤ dispatcher.settings.maxBytes) ↔
    ¬ (request.Understates dispatcher.settings.maxBytes ∧
      (∃ feature, dispatcher.select verb uri.segments = some feature ∧
        granted.permits feature.access = true) ∧
      scope.Reaches world.now) := by
  constructor
  · rintro within ⟨understates, ⟨feature, selected, permitted⟩, reaches⟩
    have admitted := gate_of_understates understates selected permitted
    obtain ⟨run, member, _, _, same⟩ := exists_mem_stageRuns admitted reaches
    obtain ⟨data, read, short⟩ := within run member
    obtain ⟨other, _, bytes, long, _⟩ := understates
    rw [Message.bytes_congr same, bytes] at read
    cases read
    exact absurd short (Nat.not_le.mpr long)
  · intro reached run member
    obtain ⟨feature, context, memorized, spent, admitted, reaches, _, _, same⟩ :=
      of_mem_stageRuns member
    rw [Message.bytes_congr same]
    refine length_of_gate admitted fun understates => reached ⟨understates, ?_, ?_⟩
    · obtain ⟨selected, permitted, _⟩ := gate_admitted_iff.mp admitted
      exact ⟨feature, selected, permitted⟩
    · intro deadline given
      exact Nat.le_trans (Nat.le_add_right _ _) (reaches deadline given)

/-! ### A body that gets past the limit -/

/-- A dispatcher with a limit of four bytes and one feature for every caller. -/
def narrowDesk : Dispatcher Unit :=
  { place := "", settings := { maxBytes := 4, bodyTimeout := Span.ofSeconds 60 }, registered := 1
    features :=
      [{ service := "desk", verb := some .post, access := .anyone, description := none
         signature := { written := "in", places := [.constant "in"], extent := .atMost 0 }
         prologues := [], epilogues := [], counter := { place := "", number := 0 }
         main := { name := "POST:in", plan := ⟨[]⟩, handler := fun _ => return .ok .ok } }] }

/-- A request of eight bytes that are announced as one. -/
def understatedRequest : Message := (Message.okText "abcdefgh").appendHeader "Content-Length" "1"

theorem understatedRequest_understates : understatedRequest.Understates 4 :=
  ⟨Text.Utf8.encode "abcdefgh", 1, rfl, by decide +kernel⟩

/-- **A stage can read more than the limit.** -/
theorem stage_reads_beyond_limit :
    ∃ (uri : Uri) (run : StageRun Unit) (data : Text.Bytes),
      (Uri.parse "local://host/in").toOption = some uri ∧
      run ∈ narrowDesk.stageRuns .post uri understatedRequest .anyone .outermost
        (World.initial 0 ()) ∧
      run.pending.request.bytes = .ok data ∧ narrowDesk.settings.maxBytes < data.length := by
  have parsed : ∃ uri, (Uri.parse "local://host/in").toOption = some uri ∧
      (narrowDesk.select .post uri.segments).any
        (fun feature => Access.anyone.permits feature.access) = true :=
    ⟨{ scheme := "local", dotted := false, path := .segments ["in"], query := none
       authority := some { username := "", password := "", host := "host", port := none }
       fragment := none }, by decide +kernel⟩
  obtain ⟨uri, parsed, served⟩ := parsed
  obtain ⟨feature, selected, permitted⟩ := (Option.any_eq_true _ _).mp served
  have admitted := gate_of_understates understatedRequest_understates selected permitted
  have unlimited : Scope.outermost.Reaches ((World.initial 0 ()).now + Span.zero) :=
    fun deadline given => nomatch given
  obtain ⟨run, member, _, _, same⟩ := exists_mem_stageRuns admitted unlimited
  obtain ⟨data, announced, read, long, _⟩ := understatedRequest_understates
  exact ⟨uri, run, data, parsed, member, by rw [Message.bytes_congr same, read], long⟩

end Dispatcher

end Switchboard
