import Mathlib.Data.List.Forall2
import Switchboard.Feature.Extraction
import Switchboard.Proofs.Message.Fresh
import Switchboard.Proofs.Message.Memorize
/-!
What the extractors of a plan find, and what they leave.

A request whose body is in memory survives all extractors: at most its body keeps more than before.
So what an extractor finds depends on the request and the circumstances only, and not on which
extractors came before it. The one exception is the response of the stage before, which goes to the
first binding that asks for it, if no binding fails before that.

* `Extractor.kind_of_extract`: what an extractor finds has the kind of the extractor.
* `Extractor.blames_of_extract`: what it fails with blames the parameter.
* `Binding.extract_spec`: all that one binding does.
* `Plan.extractAll_extracts`: all that a list of bindings does, as a relation (`Plan.Extracts`).
-/

namespace Switchboard

/-! ### Outcomes -/

section

variable {ε ε' α β : Type} {work : Except ε α} {f : α → β} {g : ε → ε'}

theorem map_eq_ok_iff {made : β} : work.map f = .ok made ↔ ∃ value, work = .ok value ∧ f value = made := by
  cases work with
  | ok value =>
    exact ⟨fun same => ⟨value, rfl, Except.ok.inj same⟩, fun ⟨other, found, same⟩ => by
      cases found
      exact congrArg Except.ok same⟩
  | error fault => exact ⟨(nomatch ·), fun ⟨_, found, _⟩ => nomatch found⟩

theorem map_eq_error_iff {fault : ε} : work.map f = .error fault ↔ work = .error fault := by
  cases work with
  | ok value => exact ⟨(nomatch ·), (nomatch ·)⟩
  | error other => exact ⟨fun same => congrArg Except.error (Except.error.inj same),
      fun same => congrArg Except.error (Except.error.inj same)⟩

theorem exists_of_mapError {fault : ε'} (failed : work.mapError g = .error fault) :
    ∃ inner, work = .error inner ∧ fault = g inner := by
  cases work with
  | ok value => cases failed
  | error inner => exact ⟨inner, rfl, (Except.error.inj failed).symm⟩

end

/-- **A fault blames a parameter**: the request has a value for it that is not of its kind. -/
def FeatureFault.Blames (fault : FeatureFault) (parameter : String) : Prop :=
  ∃ reason, fault = .badArgument parameter reason

/-! ### Values -/

namespace ValueKind

variable {name : String} {fault : FeatureFault}

theorem blames_of_readInt {value : String} (failed : readInt name value = .error fault) :
    fault.Blames name := by
  obtain ⟨inner, _, rfl⟩ := exists_of_mapError failed
  exact ⟨_, rfl⟩

theorem blames_of_readUInt {value : String} (failed : readUInt name value = .error fault) :
    fault.Blames name := by
  obtain ⟨inner, _, rfl⟩ := exists_of_mapError failed
  exact ⟨_, rfl⟩

theorem blames_of_readFloat {value : String} (failed : readFloat name value = .error fault) :
    fault.Blames name := by
  obtain ⟨inner, _, rfl⟩ := exists_of_mapError failed
  exact ⟨_, rfl⟩

theorem blames_of_readBool {value : String} (failed : readBool name value = .error fault) :
    fault.Blames name := by
  simp only [readBool] at failed
  split at failed
  · cases failed
  · split at failed
    · cases failed
    · exact ⟨_, (Except.error.inj failed).symm⟩

/-- Reading the first value fails only with what reading a value fails with. -/
theorem exists_of_readFirst {α : Type} {read : String → Except FeatureFault α}
    {values : List String} (failed : readFirst read values = .error fault) :
    ∃ value, read value = .error fault := by
  cases values with
  | nil => cases failed
  | cons value rest => exact ⟨value, map_eq_error_iff.mp failed⟩

/-- Reading all values fails only with what reading a value fails with. -/
theorem exists_of_readAll {α : Type} {read : String → Except FeatureFault α}
    {values : List String} (failed : readAll read values = .error fault) :
    ∃ value, read value = .error fault := by
  induction values with
  | nil => cases failed
  | cons value rest ih =>
    unfold readAll at failed
    split at failed
    · rename_i other refused
      cases failed
      exact ⟨value, refused⟩
    · exact ih (map_eq_error_iff.mp failed)

/-- **A value that cannot be read** is blamed on its parameter. -/
theorem blames_of_read {kind : ValueKind} {values : List String}
    (failed : kind.read name values = .error fault) : fault.Blames name := by
  cases kind with
  | text => cases failed
  | textList => cases failed
  | int =>
    obtain ⟨value, refused⟩ := exists_of_readFirst (map_eq_error_iff.mp failed)
    exact blames_of_readInt refused
  | uint =>
    obtain ⟨value, refused⟩ := exists_of_readFirst (map_eq_error_iff.mp failed)
    exact blames_of_readUInt refused
  | float =>
    obtain ⟨value, refused⟩ := exists_of_readFirst (map_eq_error_iff.mp failed)
    exact blames_of_readFloat refused
  | bool =>
    obtain ⟨value, refused⟩ := exists_of_readFirst (map_eq_error_iff.mp failed)
    exact blames_of_readBool refused
  | intList =>
    obtain ⟨value, refused⟩ := exists_of_readAll (map_eq_error_iff.mp failed)
    exact blames_of_readInt refused

/-- What is read of values has the kind that is asked for. -/
theorem kind_of_read {kind : ValueKind} {values : List String} {argument : Argument}
    (found : kind.read name values = .ok argument) : argument.kind = kind.kind := by
  cases kind with
  | text =>
    cases found
    rfl
  | textList =>
    cases found
    rfl
  | int | uint | float | bool | intList =>
    obtain ⟨value, _, rfl⟩ := map_eq_ok_iff.mp found
    rfl

end ValueKind

/-! ### Bodies -/

namespace BodyKind

/-- What is found of a body, by what the request tells. -/
theorem extract_fst (kind : BodyKind) (name : String) (request : Message) :
    (kind.extract name request).1 = match kind with
      | .document => (request.document.mapError fun fault =>
          FeatureFault.badArgument name fault.message).map .document
      | .text => (request.string.mapError fun fault =>
          FeatureFault.badArgument name fault.message).map fun text => .text (some text)
      | .bytes => (request.bytes.mapError FeatureFault.body).map .bytes
      | .stream => (request.takeStream.1.mapError FeatureFault.body).map fun events =>
          .stream (some events) := by
  cases kind <;> rfl

/-- What is found of a body does not depend on what it keeps. -/
theorem extract_congr (kind : BodyKind) (name : String) {one other : Message}
    (same : one.fresh = other.fresh) : (kind.extract name one).1 = (kind.extract name other).1 := by
  rw [extract_fst, extract_fst]
  cases kind with
  | document => simp only [Message.document_congr same]
  | text => simp only [Message.string_congr same]
  | bytes => simp only [Message.bytes_congr same]
  | stream => simp only [Message.stream_congr same]

variable {request : Message}

/-- **A body in memory is read and not taken.** -/
theorem fresh_extract (kind : BodyKind) (name : String) (inMemory : request.isCloneable = true) :
    (kind.extract name request).2.fresh = request.fresh := by
  cases kind with
  | document => exact request.fresh_askDocument
  | text => exact request.fresh_askString
  | bytes => exact request.fresh_askBytes
  | stream => exact Message.fresh_takeStream (Message.isLive_of_isCloneable inMemory)

theorem kind_of_extract {kind : BodyKind} {name : String} {argument : Argument}
    (found : (kind.extract name request).1 = .ok argument) : argument.kind = kind.kind := by
  rw [extract_fst] at found
  cases kind with
  | document | text | bytes | stream =>
    obtain ⟨value, _, rfl⟩ := map_eq_ok_iff.mp found
    rfl

/-- A body in memory that is not what was asked for is blamed on its parameter. -/
theorem blames_of_extract {kind : BodyKind} {name : String} {fault : FeatureFault}
    (inMemory : request.isCloneable = true)
    (failed : (kind.extract name request).1 = .error fault) : fault.Blames name := by
  obtain ⟨data, read⟩ := Message.bytes_of_isCloneable inMemory
  rw [extract_fst] at failed
  cases kind with
  | document =>
    obtain ⟨inner, _, rfl⟩ := exists_of_mapError (map_eq_error_iff.mp failed)
    exact ⟨inner.message, rfl⟩
  | text =>
    obtain ⟨inner, _, rfl⟩ := exists_of_mapError (map_eq_error_iff.mp failed)
    exact ⟨inner.message, rfl⟩
  | bytes =>
    rw [read] at failed
    cases failed
  | stream =>
    rw [Message.takeStream_of_bytes read] at failed
    cases failed

end BodyKind

/-! ### Extractors -/

/-- An argument in which a copy of the request keeps nothing. -/
def Argument.fresh : Argument → Argument
  | .request copy => .request (copy.map Message.fresh)
  | other => other

/-- The response of the stage before, if an argument is for it. -/
def Argument.response? : Argument → Option (Option Message)
  | .response previous => some previous
  | _ => none

theorem Argument.response?_of_kind {argument : Argument} (other : argument.kind ≠ .response) :
    argument.response? = none := by
  cases argument with
  | response previous => exact absurd rfl other
  | _ => rfl

/-- A copy of a request does not depend on what the body of the request keeps, but for what the copy
keeps itself. -/
theorem Message.copy_fresh (message : Message) :
    message.copy.map fresh = message.fresh.copy.map fresh := by
  obtain ⟨status, headers, cookies, body⟩ := message
  cases body <;> rfl

theorem Message.cookie?_fresh (message : Message) (name : String) :
    message.fresh.cookie? name = message.cookie? name := rfl

namespace Extractor

/-- The kind of what an extractor finds. -/
def kind : Extractor → Kind
  | .query _ kind | .path _ kind | .header _ kind => kind.kind
  | .cookieValue _ | .verbText | .pathText | .uriText => .text
  | .cookie _ => .cookie
  | .verb => .verb
  | .uri => .uri
  | .body kind => kind.kind
  | .context => .context
  | .request => .request
  | .response => .response

/-- Only the extractor of the response finds a response. -/
theorem kind_eq_response_iff {extractor : Extractor} :
    extractor.kind = .response ↔ extractor = .response := by
  cases extractor with
  | query key kind | path key kind | header key kind =>
    exact ⟨fun same => (by cases kind <;> cases same), (nomatch ·)⟩
  | body kind => exact ⟨fun same => (by cases kind <;> cases same), (nomatch ·)⟩
  | response => exact ⟨fun _ => rfl, fun _ => rfl⟩
  | _ => exact ⟨(nomatch ·), (nomatch ·)⟩

variable {extractor : Extractor} {name : String} {context : Context} {pending : Pending}

/-- **What an extractor finds has its kind.** -/
theorem kind_of_extract {argument : Argument}
    (found : (extractor.extract name context pending).1 = .ok argument) :
    argument.kind = extractor.kind := by
  cases extractor with
  | query key kind | path key kind | header key kind => exact ValueKind.kind_of_read found
  | body kind => exact BodyKind.kind_of_extract found
  | request =>
    obtain ⟨copy, _, rfl⟩ := map_eq_ok_iff.mp found
    rfl
  | _ =>
    cases found
    rfl

/-- **What an extractor fails with blames its parameter**, if the request is in memory. -/
theorem blames_of_extract {fault : FeatureFault} (inMemory : pending.request.isCloneable = true)
    (failed : (extractor.extract name context pending).1 = .error fault) : fault.Blames name := by
  cases extractor with
  | query key kind | path key kind | header key kind => exact ValueKind.blames_of_read failed
  | body kind => exact BodyKind.blames_of_extract inMemory failed
  | request =>
    have copied : pending.request.copy = .ok pending.request :=
      Message.copy_eq_ok_iff.mpr ⟨inMemory, rfl⟩
    obtain ⟨inner, refused, _⟩ := exists_of_mapError (map_eq_error_iff.mp failed)
    rw [copied] at refused
    cases refused
  | _ => cases failed

/-- The response of the stage before is not looked for in vain. -/
theorem extract_response (name : String) (context : Context) (pending : Pending) :
    Extractor.response.extract name context pending
      = (.ok (.response pending.previous), { pending with previous := none }) := rfl

/-- An extractor leaves the request as it is, up to what its body keeps. -/
theorem fresh_extract (extractor : Extractor) (name : String) (context : Context)
    (inMemory : pending.request.isCloneable = true) :
    (extractor.extract name context pending).2.request.fresh = pending.request.fresh := by
  cases extractor with
  | body kind => exact kind.fresh_extract name inMemory
  | _ => rfl

/-- An extractor leaves the response of the stage before, unless it takes it. -/
theorem previous_extract (extractor : Extractor) (name : String) (context : Context)
    (pending : Pending) : (extractor.extract name context pending).2.previous
      = if extractor = .response then none else pending.previous := by
  cases extractor <;> rfl

/-- **What an extractor finds depends on the request alone**, and on the response of the stage before
only if it is what is asked for. -/
theorem extract_congr {one other : Pending} (requests : one.request.fresh = other.request.fresh)
    (responses : extractor = .response → one.previous = other.previous) :
    (extractor.extract name context one).1.map Argument.fresh
      = (extractor.extract name context other).1.map Argument.fresh := by
  cases extractor with
  | header key kind =>
    show (kind.read name (one.request.headers.getAll key)).map _ = _
    rw [Message.headers_congr requests]
    rfl
  | cookieValue key =>
    show Except.ok (Argument.text ((one.request.cookie? key).map Cookie.value)) = _
    rw [← Message.cookie?_fresh, requests]
    rfl
  | cookie key =>
    show Except.ok (Argument.cookie (one.request.cookie? key)) = _
    rw [← Message.cookie?_fresh, requests]
    rfl
  | body kind =>
    show (kind.extract name one.request).1.map _ = (kind.extract name other.request).1.map _
    rw [kind.extract_congr name requests]
  | request =>
    have copies : one.request.copy.map Message.fresh = other.request.copy.map Message.fresh := by
      rw [Message.copy_fresh, requests, ← Message.copy_fresh]
    have shape : ∀ work : Except BodyFault Message,
        ((work.mapError FeatureFault.body).map fun copy => Argument.request (some copy)).map
            Argument.fresh
          = ((work.map Message.fresh).mapError FeatureFault.body).map fun copy =>
            .request (some copy) := fun work => by
      cases work <;> rfl
    refine (shape one.request.copy).trans ?_
    rw [copies]
    exact (shape other.request.copy).symm
  | response =>
    show Except.ok (Argument.response one.previous) = Except.ok (Argument.response other.previous)
    rw [responses rfl]
  | _ => rfl

end Extractor

/-! ### Bindings -/

namespace Binding

/-- Why a binding is not found in a request, if it is not. -/
def fault? (binding : Binding) (context : Context) (request : Message) : Option FeatureFault :=
  match (binding.extractor.extract binding.name context { request, previous := none }).1 with
  | .ok _ => none
  | .error fault => some fault

variable {binding : Binding} {context : Context}

theorem fault?_eq_some_iff (pending : Pending) {fault : FeatureFault} :
    binding.fault? context pending.request = some fault ↔
      (binding.extractor.extract binding.name context pending).1 = .error fault := by
  by_cases asks : binding.extractor = .response
  · unfold fault?
    rw [asks, Extractor.extract_response, Extractor.extract_response]
    exact ⟨(nomatch ·), (nomatch ·)⟩
  · have alike : (binding.extractor.extract binding.name context
          { request := pending.request, previous := none }).1.map Argument.fresh
        = (binding.extractor.extract binding.name context pending).1.map Argument.fresh :=
      Extractor.extract_congr rfl fun isResponse => absurd isResponse asks
    rw [← map_eq_error_iff (f := Argument.fresh), ← alike, map_eq_error_iff]
    unfold fault?
    constructor
    · intro fails
      split at fails
      · cases fails
      · rename_i other failed
        rw [failed, Option.some.inj fails]
    · intro failed
      rw [failed]

/-- Whether a binding is found does not depend on what the body of the request keeps. -/
theorem fault?_congr {one other : Message} (same : one.fresh = other.fresh) :
    binding.fault? context one = binding.fault? context other := by
  have alike : (binding.extractor.extract binding.name context
        { request := one, previous := none }).1.map Argument.fresh
      = (binding.extractor.extract binding.name context
        { request := other, previous := none }).1.map Argument.fresh :=
    Extractor.extract_congr same fun _ => rfl
  have byFaults : ∀ (request : Message) (fault : FeatureFault),
      binding.fault? context request = some fault ↔
        (binding.extractor.extract binding.name context
          { request, previous := none }).1.map Argument.fresh = .error fault := by
    intro request fault
    rw [map_eq_error_iff]
    exact fault?_eq_some_iff { request, previous := none }
  refine Option.ext fun fault => ?_
  rw [byFaults, byFaults, alike]

/-- **All that a binding does**: it is found or fails as the request tells, the request stays the
same, and the response of the stage before is gone just if it was asked for. -/
theorem extract_spec (binding : Binding) (context : Context) {pending : Pending}
    (inMemory : pending.request.isCloneable = true) : ∃ after : Pending,
      after.request.fresh = pending.request.fresh ∧
      after.previous = (if binding.extractor = .response then none else pending.previous) ∧
      ((∃ fault, binding.fault? context pending.request = some fault ∧
          binding.extractor.extract binding.name context pending = (.error fault, after)) ∨
        ∃ argument, binding.fault? context pending.request = none ∧
          binding.extractor.extract binding.name context pending = (.ok argument, after)) := by
  have requests := binding.extractor.fresh_extract binding.name context inMemory
  have responses := binding.extractor.previous_extract binding.name context pending
  refine ⟨_, requests, responses, ?_⟩
  rcases result : binding.extractor.extract binding.name context pending with ⟨fault | argument, after⟩
  · exact Or.inl ⟨fault, (fault?_eq_some_iff pending).mpr (congrArg Prod.fst result), rfl⟩
  · refine Or.inr ⟨argument, ?_, rfl⟩
    refine Option.eq_none_iff_forall_ne_some.mpr fun fault fails => ?_
    have failed := (fault?_eq_some_iff pending).mp fails
    rw [result] at failed
    cases failed

end Binding

/-! ### Plans -/

namespace Plan

/-- **How a list of bindings is gone through** for a request in memory, binding by binding: what
comes of it, and what is left. -/
inductive Extracts (context : Context) :
    List Binding → Pending → Except FeatureFault (List (String × Argument)) → Pending → Prop where
  | nil (pending : Pending) : Extracts context [] pending (.ok []) pending
  | fails {binding : Binding} {pending after : Pending} {fault : FeatureFault}
      (rest : List Binding) (same : after.request.fresh = pending.request.fresh)
      (left : after.previous = pending.previous)
      (refused : binding.fault? context pending.request = some fault)
      (failed : binding.extractor.extract binding.name context pending = (.error fault, after)) :
      Extracts context (binding :: rest) pending (.error fault) after
  | finds {binding : Binding} {rest : List Binding} {pending after last : Pending}
      {argument : Argument} {result : Except FeatureFault (List (String × Argument))}
      (same : after.request.fresh = pending.request.fresh)
      (left : after.previous = if binding.extractor = .response then none else pending.previous)
      (fine : binding.fault? context pending.request = none)
      (found : binding.extractor.extract binding.name context pending = (.ok argument, after))
      (later : Extracts context rest after result last) :
      Extracts context (binding :: rest) pending (result.map ((binding.name, argument) :: ·)) last

theorem extractAll_cons_of_error {context : Context} {binding : Binding} {pending after : Pending}
    {fault : FeatureFault} (rest : List Binding)
    (failed : binding.extractor.extract binding.name context pending = (.error fault, after)) :
    extractAll context (binding :: rest) pending = (.error fault, after) := by
  simp only [extractAll, failed]

theorem extractAll_cons_of_ok {context : Context} {binding : Binding} {pending after : Pending}
    {argument : Argument} (rest : List Binding)
    (found : binding.extractor.extract binding.name context pending = (.ok argument, after)) :
    extractAll context (binding :: rest) pending
      = ((extractAll context rest after).1.map ((binding.name, argument) :: ·),
        (extractAll context rest after).2) := by
  simp only [extractAll, found]
  rcases extractAll context rest after with ⟨fault | values, last⟩ <;> rfl

/-- **A plan is gone through binding by binding.** -/
theorem extractAll_extracts (context : Context) (bindings : List Binding) :
    ∀ {pending : Pending}, pending.request.isCloneable = true →
      Extracts context bindings pending (extractAll context bindings pending).1
        (extractAll context bindings pending).2 := by
  induction bindings with
  | nil => exact fun _ => .nil _
  | cons binding rest ih =>
    intro pending inMemory
    obtain ⟨after, same, left, ⟨fault, refused, failed⟩ | ⟨argument, fine, found⟩⟩ :=
      binding.extract_spec context inMemory
    · have asksNot : binding.extractor ≠ .response := by
        intro asks
        rw [asks, Extractor.extract_response] at failed
        cases failed
      rw [if_neg asksNot] at left
      rw [extractAll_cons_of_error rest failed]
      exact .fails rest same left refused failed
    · have stillThere : after.request.isCloneable = true := by
        rw [Message.isCloneable_congr same]
        exact inMemory
      have later := ih stillThere
      rw [extractAll_cons_of_ok rest found]
      exact .finds same left fine found later

/-- The bindings that are found in a request before the first that is not. -/
def reached (context : Context) (request : Message) (bindings : List Binding) : List Binding :=
  bindings.takeWhile fun binding => (binding.fault? context request).isNone

theorem reached_congr {one other : Message} (same : one.fresh = other.fresh)
    (context : Context) (bindings : List Binding) :
    reached context one bindings = reached context other bindings := by
  unfold reached
  simp only [Binding.fault?_congr same]

/-- What the bindings that ask for a response find: the first of them the one that there is, and all
others none. -/
def handedOut (previous : Option Message) (bindings : List Binding) : List (Option Message) :=
  match bindings.countP (·.extractor = .response) with
  | 0 => []
  | others + 1 => previous :: List.replicate others none

section

variable {binding : Binding} {rest : List Binding}

theorem handedOut_cons_of_asks (asks : binding.extractor = .response) (previous : Option Message) :
    handedOut previous (binding :: rest) = previous :: handedOut none rest := by
  have counts : (binding :: rest).countP (·.extractor = .response)
      = rest.countP (·.extractor = .response) + 1 :=
    List.countP_cons_of_pos (decide_eq_true asks)
  unfold handedOut
  rw [counts]
  cases rest.countP (·.extractor = .response) with
  | zero => rfl
  | succ others => rfl

theorem handedOut_cons_of_asksNot (asksNot : binding.extractor ≠ .response)
    (previous : Option Message) :
    handedOut previous (binding :: rest) = handedOut previous rest := by
  have counts : (binding :: rest).countP (·.extractor = .response)
      = rest.countP (·.extractor = .response) :=
    List.countP_cons_of_neg (by rw [decide_eq_true_iff]; exact asksNot)
  unfold handedOut
  rw [counts]

end

/-- Arguments in which copies of the request keep nothing. -/
def freshValues (values : List (String × Argument)) : List (String × Argument) :=
  values.map fun entry => (entry.1, entry.2.fresh)

/-- The responses among arguments. -/
def responsesOf (values : List (String × Argument)) : List (Option Message) :=
  values.filterMap fun entry => entry.2.response?

namespace Extracts

variable {context : Context} {bindings : List Binding} {pending last : Pending}
  {result : Except FeatureFault (List (String × Argument))}

/-- The request survives, however far a plan gets. -/
theorem fresh_eq (extracts : Extracts context bindings pending result last) :
    last.request.fresh = pending.request.fresh := by
  induction extracts with
  | nil pending => rfl
  | fails rest same left refused failed => exact same
  | finds same left fine found later ih => exact ih.trans same

/-- The response of the stage before is gone just if a binding is reached that asks for it. -/
theorem previous_eq (extracts : Extracts context bindings pending result last) :
    last.previous = if (reached context pending.request bindings).any (·.extractor = .response)
      then none else pending.previous := by
  induction extracts with
  | nil pending => rfl
  | fails rest same left refused failed =>
    rw [reached, List.takeWhile_cons_of_neg (by rw [refused]; exact Bool.false_ne_true)]
    exact left
  | @finds binding rest pending after last argument result same left fine found later ih =>
    have onward : reached context pending.request (binding :: rest)
        = binding :: reached context after.request rest := by
      rw [reached_congr same, reached, List.takeWhile_cons_of_pos (by rw [fine]; rfl)]
      rfl
    rw [ih, left, onward, List.any_cons]
    by_cases asks : binding.extractor = .response
    · simp only [asks, decide_true, Bool.true_or, if_true, ite_self]
    · simp only [asks, decide_false, Bool.false_or, if_false]

/-- **A plan fails just with the first fault of its bindings.** -/
theorem error_iff (extracts : Extracts context bindings pending result last)
    {fault : FeatureFault} : result = .error fault ↔
      bindings.findSome? (·.fault? context pending.request) = some fault := by
  induction extracts with
  | nil pending => exact ⟨(nomatch ·), (nomatch ·)⟩
  | fails rest same left refused failed =>
    rw [List.findSome?_cons_of_isSome (by rw [refused]; rfl), refused, Option.some.injEq]
    exact ⟨Except.error.inj, congrArg Except.error⟩
  | finds same left fine found later ih =>
    rw [map_eq_error_iff, ih, List.findSome?_cons_of_isNone (by rw [fine]; rfl)]
    simp only [Binding.fault?_congr same]

/-- **Who gets the response of the stage before**: the first binding that asks for it. -/
theorem responses_of_ok (extracts : Extracts context bindings pending result last)
    {values : List (String × Argument)} (done : result = .ok values) :
    responsesOf values = handedOut pending.previous bindings := by
  induction extracts generalizing values with
  | nil pending =>
    cases done
    rfl
  | fails rest same left refused failed => cases done
  | @finds binding rest pending after last argument result same left fine found later ih =>
    obtain ⟨others, isOk, rfl⟩ := map_eq_ok_iff.mp done
    have onward : responsesOf others = handedOut after.previous rest := ih isOk
    by_cases asks : binding.extractor = .response
    · have isFound : argument = .response pending.previous := by
        rw [asks, Extractor.extract_response] at found
        cases found
        rfl
      rw [left, if_pos asks] at onward
      rw [handedOut_cons_of_asks asks, ← onward, isFound]
      rfl
    · have isNone : argument.response? = none := by
        refine Argument.response?_of_kind fun isResponse => asks ?_
        rw [← Extractor.kind_eq_response_iff,
          ← Extractor.kind_of_extract (congrArg Prod.fst found)]
        exact isResponse
      rw [left, if_neg asks] at onward
      rw [handedOut_cons_of_asksNot asks, ← onward]
      exact List.filterMap_cons_none isNone

/-- **What a plan finds depends on the request and the response before alone**, up to what copies of
the request keep. -/
theorem map_fresh_eq (extracts : Extracts context bindings pending result last) {other last' : Pending}
    {result' : Except FeatureFault (List (String × Argument))}
    (extracts' : Extracts context bindings other result' last')
    (requests : pending.request.fresh = other.request.fresh)
    (responses : pending.previous = other.previous) :
    result.map freshValues = result'.map freshValues := by
  induction extracts generalizing other result' last' with
  | nil pending =>
    cases extracts'
    rfl
  | fails rest same left refused failed =>
    rw [Binding.fault?_congr requests] at refused
    cases extracts' with
    | fails _ _ _ refused' _ =>
      rw [refused'] at refused
      rw [Option.some.inj refused]
    | finds _ _ fine' _ _ =>
      rw [fine'] at refused
      cases refused
  | @finds binding rest pending after last argument result same left fine found later ih =>
    rw [Binding.fault?_congr requests] at fine
    cases extracts' with
    | fails _ _ _ refused' _ =>
      rw [fine] at refused'
      cases refused'
    | @finds _ _ _ after' _ argument' result' same' left' fine' found' later' =>
      have firsts : (binding.extractor.extract binding.name context pending).1.map Argument.fresh
          = (binding.extractor.extract binding.name context other).1.map Argument.fresh :=
        Extractor.extract_congr requests fun _ => responses
      rw [found, found'] at firsts
      have alike : argument.fresh = argument'.fresh := Except.ok.inj firsts
      have others := ih later' (same.trans (requests.trans same'.symm))
        (by rw [left, left', responses])
      have shape : ∀ (found : Argument) (work : Except FeatureFault (List (String × Argument))),
          (work.map ((binding.name, found) :: ·)).map freshValues
            = (work.map freshValues).map ((binding.name, found.fresh) :: ·) := fun found work => by
        cases work <;> rfl
      rw [shape, shape, others, alike]

end Extracts

/-! ### Whole plans -/

variable (plan : Plan) (context : Context) (pending : Pending)

theorem extract_fst : (plan.extract context pending).1
    = (extractAll context plan.bindings pending).1.map fun values => { context, values } := by
  unfold extract
  rcases extractAll context plan.bindings pending with ⟨fault | values, left⟩ <;> rfl

theorem extract_snd : (plan.extract context pending).2
    = (extractAll context plan.bindings pending).2 := by
  unfold extract
  rcases extractAll context plan.bindings pending with ⟨fault | values, left⟩ <;> rfl

variable {pending}

/-- The response of the stage before goes to the first binding of a plan that asks for it. -/
theorem responses_of_extract (inMemory : pending.request.isCloneable = true) {arguments : Arguments}
    (found : (plan.extract context pending).1 = .ok arguments) :
    responsesOf arguments.values = handedOut pending.previous plan.bindings := by
  rw [extract_fst] at found
  obtain ⟨values, allFound, rfl⟩ := map_eq_ok_iff.mp found
  exact (extractAll_extracts context plan.bindings inMemory).responses_of_ok allFound

/-- **A request in memory survives a plan**, whether its arguments are found or not. -/
theorem fresh_extract (inMemory : pending.request.isCloneable = true) :
    (plan.extract context pending).2.request.fresh = pending.request.fresh := by
  rw [extract_snd]
  exact (extractAll_extracts context plan.bindings inMemory).fresh_eq

end Plan

end Switchboard
