import Switchboard.Proofs.Message.Fresh
import Switchboard.Proofs.Message.Memorize
/-!
What a message holds, and how it answers.

A body holds bytes and a document, whatever it keeps: a stream holds the bytes that will arrive. A
body is in one of four phases. In memory, it answers with what it holds. A live stream answers that
it has not been read, until it is read into memory or handed out. A body that was consumed or closed
answers with nothing but that fact.

* `Body.content?` and `Body.phase`: what a body holds, and which phase it is in.
* `Message.Answered`: how a message answers a call, phase by phase.
* `Message.answered`: every message answers every call so, with what it holds.
* `Message.content?_call`: no call brings about anything that was not held before.
-/

namespace Switchboard

/-! ### Contents and phases -/

/-- What a body holds: its bytes, and the document that they are, if they are one. -/
structure Content where
  data : Text.Bytes
  document : Except BodyFault Json

/-- What bytes hold. -/
def Content.ofBytes (data : Text.Bytes) : Content := { data, document := Json.parsing data }

/-- The phases in the life of a body. -/
inductive Phase where
  | inMemory | live | consumed | closed
  deriving DecidableEq, Repr

namespace Body

/-- What a body holds, or will hold once it is read into memory. -/
def content? : Body → Option Content
  | .documentWith value _ => some { data := value.render, document := .ok value }
  | .bytesWith data _ => some (.ofBytes data)
  | .stream events _ => some (.ofBytes events.data)
  | .consumed => none
  | .closed => none

/-- The phase of a body. -/
def phase : Body → Phase
  | .documentWith _ _ => .inMemory
  | .bytesWith _ _ => .inMemory
  | .stream _ _ => .live
  | .consumed => .consumed
  | .closed => .closed

end Body

namespace Message

/-- What a message holds. -/
def content? (message : Message) : Option Content := message.body.content?

/-- The phase of a message. -/
def phase (message : Message) : Phase := message.body.phase

section

variable {message : Message}

theorem phase_eq_inMemory_iff : message.phase = .inMemory ↔ message.isCloneable = true := by
  obtain ⟨status, headers, cookies, body⟩ := message
  cases body with
  | documentWith value kept => exact ⟨fun _ => rfl, fun _ => rfl⟩
  | bytesWith data kept => exact ⟨fun _ => rfl, fun _ => rfl⟩
  | stream events length => exact ⟨(nomatch ·), (nomatch ·)⟩
  | consumed => exact ⟨(nomatch ·), (nomatch ·)⟩
  | closed => exact ⟨(nomatch ·), (nomatch ·)⟩

/-- A live message is one with a live stream. -/
theorem isLive_eq (message : Message) : message.isLive = decide (message.phase = .live) := by
  obtain ⟨status, headers, cookies, body⟩ := message
  cases body <;> rfl

theorem content?_congr {other : Message} (same : message.fresh = other.fresh) :
    message.content? = other.content? := by
  have ofFresh : ∀ body : Body, body.fresh.content? = body.content? := fun body => by
    cases body <;> rfl
  have sameBody : message.body.fresh = other.body.fresh := congrArg Message.body same
  unfold content?
  rw [← ofFresh, sameBody, ofFresh]

theorem phase_congr {other : Message} (same : message.fresh = other.fresh) :
    message.phase = other.phase := by
  have ofFresh : ∀ body : Body, body.fresh.phase = body.phase := fun body => by
    cases body <;> rfl
  have sameBody : message.body.fresh = other.body.fresh := congrArg Message.body same
  unfold phase
  rw [← ofFresh, sameBody, ofFresh]

/-- **A body in memory tells what it holds**, whatever it keeps. -/
theorem exists_content (inMemory : message.isCloneable = true) : ∃ content,
    message.content? = some content ∧ message.bytes = .ok content.data ∧
      message.document = content.document := by
  obtain ⟨status, headers, cookies, body⟩ := message
  cases body with
  | documentWith value kept => exact ⟨_, rfl, Body.bytes_documentWith value kept, rfl⟩
  | bytesWith data kept => exact ⟨_, rfl, rfl, Body.document_bytesWith data kept⟩
  | stream events length => cases inMemory
  | consumed => cases inMemory
  | closed => cases inMemory

end

/-! ### Calls -/

/-- What a message can be asked to do. -/
inductive Call where
  | bytes
  | document
  | text
  | stream
  | memorize (limit : Nat) (timeout : Span)
  | copy
  | length
  | close
  deriving DecidableEq, Repr

/-- What comes of a call. -/
inductive Answer where
  | bytes (result : Except BodyFault Text.Bytes)
  | document (result : Except BodyFault Json)
  | text (result : Except BodyFault String)
  | stream (result : Except BodyFault Stream)
  | memorized (result : Except BodyFault Unit)
  | copied (result : Except BodyFault Message)
  | length (result : Option Nat)
  | closed

/-- Makes a call on a message. Returns the answer and the message afterwards. -/
def call (message : Message) : Call → Answer × Message
  | .bytes => (.bytes message.askBytes.1, message.askBytes.2)
  | .document => (.document message.askDocument.1, message.askDocument.2)
  | .text => (.text message.askString.1, message.askString.2)
  | .stream => (.stream message.takeStream.1, message.takeStream.2)
  | .memorize limit timeout =>
    (.memorized (message.memorize limit timeout).1, (message.memorize limit timeout).2.1)
  | .copy => (.copied message.copy, message)
  | .length => (.length message.contentLength?, message)
  | .close => (.closed, message.close)

/-! ### Answers -/

/-- How a body in memory answers, with what it holds. -/
def AnswersWith (message : Message) (content : Content) : Call → Answer → Prop
  | .bytes, answer => answer = .bytes (.ok content.data)
  | .document, answer => answer = .document content.document
  | .text, answer => answer = .text (readText content.data)
  | .stream, answer => answer = .stream (.ok [.bytes content.data])
  | .memorize _ _, answer => answer = .memorized (.ok ())
  | .copy, answer => answer = .copied (.ok message)
  | .length, answer => message.headers.contentLength? = none →
      answer = .length (some content.data.length)
  | .close, answer => answer = .closed

/-- How a live stream answers, and what is left of it. -/
def AnswersLive (message : Message) (events : Stream) : Call → Answer → Message → Prop
  | .bytes, answer, left => answer = .bytes (.error .unread) ∧ left = message
  | .document, answer, left => answer = .document (.error .unread) ∧ left = message
  | .text, answer, left => answer = .text (.error .unread) ∧ left = message
  | .stream, answer, left => answer = .stream (.ok events) ∧ left.phase = .consumed
  | .memorize _ _, answer, left =>
    (answer = .memorized (.ok ()) ∧ left.phase = .inMemory ∧
        left.content? = some (.ofBytes events.data)) ∨
      ∃ fault, answer = .memorized (.error fault) ∧ left.phase = .consumed
  | .copy, answer, left => answer = .copied (.error .notCloneable) ∧ left = message
  | .length, answer, left => answer = .length message.contentLength? ∧ left = message
  | .close, answer, left => answer = .closed ∧ left.phase = .closed

/-- How a body that is gone answers: with a fault, and with one for copies, and it stays gone. -/
def AnswersGone (message : Message) (fault noCopy : BodyFault) : Call → Answer → Message → Prop
  | .bytes, answer, left => answer = .bytes (.error fault) ∧ left = message
  | .document, answer, left => answer = .document (.error fault) ∧ left = message
  | .text, answer, left => answer = .text (.error fault) ∧ left = message
  | .stream, answer, left => answer = .stream (.error fault) ∧ left = message
  | .memorize _ _, answer, left => answer = .memorized (.error fault) ∧ left = message
  | .copy, answer, left => answer = .copied (.error noCopy) ∧ left = message
  | .length, answer, left => answer = .length message.contentLength? ∧ left = message
  | .close, answer, left => answer = .closed ∧ left.phase = .closed

/-- **How a message answers a call**, by the phase of its body, if `held` is what it holds. -/
inductive Answered (held : Option Content) (message : Message) (call : Call) (answer : Answer)
    (left : Message) : Prop where
  /-- A body in memory answers with what it holds, and stays until it is closed. -/
  | inMemory {content : Content} (phase : message.phase = .inMemory)
      (holds : held = some content) (answers : message.AnswersWith content call answer)
      (stays : call ≠ .close → left.fresh = message.fresh)
      (closes : call = .close → left.phase = .closed)
  | live {events : Stream} (phase : message.phase = .live)
      (holds : held = some (.ofBytes events.data))
      (answers : message.AnswersLive events call answer left)
  | consumed (phase : message.phase = .consumed)
      (answers : message.AnswersGone .consumed .notCloneable call answer left)
  | closed (phase : message.phase = .closed)
      (answers : message.AnswersGone .closed .closed call answer left)

section

variable {message : Message}

/-- A body in memory answers with what it holds. -/
theorem answers_of_isCloneable (inMemory : message.isCloneable = true) {content : Content}
    (bytes : message.bytes = .ok content.data) (document : message.document = content.document)
    (call : Call) : message.AnswersWith content call (message.call call).1 := by
  cases call with
  | bytes => exact congrArg Answer.bytes bytes
  | document => exact congrArg Answer.document document
  | text =>
    have read : message.string = readText content.data := congrArg (Except.bind · readText) bytes
    exact congrArg Answer.text read
  | stream => exact congrArg Answer.stream (takeStream_of_bytes bytes)
  | memorize limit timeout =>
    have untouched := memorize_of_isCloneable inMemory limit timeout
    exact congrArg (fun read => Answer.memorized read.1) untouched
  | copy => exact congrArg Answer.copied (copy_eq_ok_iff.mpr ⟨inMemory, rfl⟩)
  | length =>
    intro unannounced
    have known : message.contentLength? = some content.data.length := by
      unfold contentLength?
      rw [unannounced]
      exact length_of_bytes bytes
    exact congrArg Answer.length known
  | close => rfl

/-- A body in memory stays as it is until it is closed, but for what it keeps. -/
theorem fresh_call (inMemory : message.isCloneable = true) {call : Call} (unclosed : call ≠ .close) :
    (message.call call).2.fresh = message.fresh := by
  cases call with
  | bytes => exact message.fresh_askBytes
  | document => exact message.fresh_askDocument
  | text => exact message.fresh_askString
  | stream => exact fresh_takeStream (isLive_of_isCloneable inMemory)
  | memorize limit timeout =>
    have untouched := memorize_of_isCloneable inMemory limit timeout
    exact congrArg (fun read => read.2.1.fresh) untouched
  | copy => rfl
  | length => rfl
  | close => exact absurd rfl unclosed

/-- A stream that is to be read into memory is in memory then, or it is consumed. -/
theorem answersLive_memorize {events : Stream} {length : Option Nat}
    (live : message.body = .stream events length) (limit : Nat) (timeout : Span) :
    message.AnswersLive events (.memorize limit timeout)
      (message.call (.memorize limit timeout)).1 (message.call (.memorize limit timeout)).2 := by
  show message.AnswersLive events (.memorize limit timeout)
    (.memorized (message.memorize limit timeout).1) (message.memorize limit timeout).2.1
  rcases memorize_of_stream live limit timeout with
    ⟨fault, _, failed⟩ | ⟨data, _, _, drained, done⟩
  · rw [failed]
    exact Or.inr ⟨fault, rfl, rfl⟩
  · rw [done, (Stream.of_drain_eq_ok drained).2.1]
    exact Or.inl ⟨rfl, rfl, rfl⟩

/-- A live stream answers that it has not been read, unless it is read into memory or handed out. -/
theorem answersLive_of_stream {events : Stream} {length : Option Nat}
    (live : message.body = .stream events length) (call : Call) :
    message.AnswersLive events call (message.call call).1 (message.call call).2 := by
  cases call with
  | memorize limit timeout => exact answersLive_memorize live limit timeout
  | _ =>
    obtain ⟨status, headers, cookies, body⟩ := message
    cases live
    exact ⟨rfl, rfl⟩

theorem answersGone_of_consumed (gone : message.body = .consumed) (call : Call) :
    message.AnswersGone .consumed .notCloneable call (message.call call).1
      (message.call call).2 := by
  obtain ⟨status, headers, cookies, body⟩ := message
  cases gone
  cases call <;> exact ⟨rfl, rfl⟩

theorem answersGone_of_closed (gone : message.body = .closed) (call : Call) :
    message.AnswersGone .closed .closed call (message.call call).1 (message.call call).2 := by
  obtain ⟨status, headers, cookies, body⟩ := message
  cases gone
  cases call <;> exact ⟨rfl, rfl⟩

end

/-- **Every message answers every call** as its phase has it. -/
theorem answered (message : Message) (call : Call) :
    Answered message.content? message call (message.call call).1 (message.call call).2 := by
  by_cases inMemory : message.isCloneable = true
  · obtain ⟨content, holds, bytes, document⟩ := exists_content inMemory
    refine .inMemory (phase_eq_inMemory_iff.mpr inMemory) holds
      (answers_of_isCloneable inMemory bytes document call) (fresh_call inMemory) ?_
    rintro rfl
    rfl
  · cases body : message.body with
    | documentWith value kept =>
      exact absurd (phase_eq_inMemory_iff.mp (congrArg Body.phase body)) inMemory
    | bytesWith data kept =>
      exact absurd (phase_eq_inMemory_iff.mp (congrArg Body.phase body)) inMemory
    | stream events length =>
      exact .live (congrArg Body.phase body) (congrArg Body.content? body)
        (answersLive_of_stream body call)
    | consumed => exact .consumed (congrArg Body.phase body) (answersGone_of_consumed body call)
    | closed => exact .closed (congrArg Body.phase body) (answersGone_of_closed body call)

/-- What a message answers is what others hold too, if they hold whatever it holds. -/
theorem Answered.mono {held others : Option Content} {message : Message} {call : Call}
    {answer : Answer} {left : Message} (answered : Answered held message call answer left)
    (same : ∀ content, held = some content → others = some content) :
    Answered others message call answer left := by
  cases answered with
  | inMemory phase holds answers stays closes =>
    exact .inMemory phase (same _ holds) answers stays closes
  | live phase holds answers => exact .live phase (same _ holds) answers
  | consumed phase answers => exact .consumed phase answers
  | closed phase answers => exact .closed phase answers

/-! ### What calls bring about -/

section

variable {message left : Message} {call : Call} {answer : Answer} {content : Content}

/-- A message that is consumed or closed holds nothing. -/
theorem not_gone_of_content? (holds : message.content? = some content) :
    message.phase ≠ .consumed ∧ message.phase ≠ .closed := by
  obtain ⟨status, headers, cookies, body⟩ := message
  cases body with
  | documentWith value kept => exact ⟨nofun, nofun⟩
  | bytesWith data kept => exact ⟨nofun, nofun⟩
  | stream events length => exact ⟨nofun, nofun⟩
  | consumed => cases holds
  | closed => cases holds

theorem content?_of_live {events : Stream} (held : message.content? = some (.ofBytes events.data))
    (answers : message.AnswersLive events call answer left)
    (holds : left.content? = some content) : message.content? = some content := by
  have notGone := not_gone_of_content? holds
  cases call with
  | bytes | document | text | copy | length =>
    rw [← answers.2]
    exact holds
  | stream => exact absurd answers.2 notGone.1
  | close => exact absurd answers.2 notGone.2
  | memorize limit timeout =>
    obtain ⟨_, _, arrived⟩ | ⟨fault, _, consumed⟩ := answers
    · rw [held, ← arrived, holds]
    · exact absurd consumed notGone.1

theorem content?_of_gone {fault noCopy : BodyFault}
    (answers : message.AnswersGone fault noCopy call answer left)
    (holds : left.content? = some content) : message.content? = some content := by
  cases call with
  | bytes | document | text | copy | stream | memorize | length =>
    rw [← answers.2]
    exact holds
  | close => exact absurd answers.2 (not_gone_of_content? holds).2

/-- **No call brings about anything that was not held before.** -/
theorem content?_call (holds : (message.call call).2.content? = some content) :
    message.content? = some content := by
  cases message.answered call with
  | inMemory phase held answers stays closes =>
    by_cases isClose : call = .close
    · exact absurd (closes isClose) (not_gone_of_content? holds).2
    · rw [← content?_congr (stays isClose)]
      exact holds
  | live phase held answers => exact content?_of_live held answers holds
  | consumed phase answers => exact content?_of_gone answers holds
  | closed phase answers => exact content?_of_gone answers holds

end

/-! ### When a phase ends -/

/-- The calls that may end a phase. -/
def Call.Ends (call : Call) : Phase → Prop
  | .inMemory => call = .close
  | .live => call = .stream ∨ (∃ limit timeout, call = .memorize limit timeout) ∨ call = .close
  | .consumed => call = .close
  | .closed => False

/-- **A phase lasts** until a call may end it. -/
theorem phase_call {message : Message} {call : Call} (lasts : ¬call.Ends message.phase) :
    (message.call call).2.phase = message.phase := by
  cases message.answered call with
  | inMemory phase held answers stays closes =>
    rw [phase] at lasts
    exact phase_congr (stays lasts)
  | live phase held answers =>
    rw [phase] at lasts
    cases call with
    | bytes | document | text | copy | length => exact congrArg Message.phase answers.2
    | stream => exact absurd (Or.inl rfl) lasts
    | memorize limit timeout => exact absurd (Or.inr (Or.inl ⟨limit, timeout, rfl⟩)) lasts
    | close => exact absurd (Or.inr (Or.inr rfl)) lasts
  | consumed phase answers =>
    rw [phase] at lasts
    cases call with
    | close => exact absurd rfl lasts
    | _ => exact congrArg Message.phase answers.2
  | closed phase answers =>
    cases call with
    | close => exact answers.2.trans phase.symm
    | _ => exact congrArg Message.phase answers.2

end Message

end Switchboard
