import Switchboard.Message.Basic
/-!
What a body keeps has no part in what it tells.

A message as it would be if nothing had been asked of it yet is fresh. A message answers whatever it
is asked for as the fresh one does, and reading it may add to what its body keeps and changes nothing
else: it stays the same up to freshness.

* `Message.bytes_fresh`, `Message.document_fresh`, `Message.string_fresh`, `Message.stream_fresh` and
  `Message.contentLength?_fresh`: what is told does not depend on what is kept.
* `Message.fresh_askBytes`, `Message.fresh_askDocument`, `Message.fresh_askString` and
  `Message.fresh_takeStream`: reading changes nothing but what is kept.
-/

namespace Switchboard

/-! ### Bodies -/

namespace Body

/-- A body that keeps nothing. -/
def fresh : Body → Body
  | .documentWith value _ => .document value
  | .bytesWith data _ => .bytes data
  | .stream events length => .stream events length
  | .consumed => .consumed
  | .closed => .closed

theorem bytes_fresh (body : Body) : body.fresh.askBytes.1 = body.askBytes.1 := by
  cases body with
  | documentWith value kept => rw [fresh, document, bytes_documentWith, bytes_documentWith]
  | bytesWith data kept => rfl
  | stream events length => rfl
  | consumed => rfl
  | closed => rfl

theorem document_fresh (body : Body) : body.fresh.askDocument.1 = body.askDocument.1 := by
  cases body with
  | documentWith value kept => rfl
  | bytesWith data kept => rw [fresh, bytes, document_bytesWith, document_bytesWith]
  | stream events length => rfl
  | consumed => rfl
  | closed => rfl

theorem length?_fresh (body : Body) : body.fresh.length? = body.length? := by
  cases body with
  | documentWith value kept => rw [fresh, document, length?_documentWith, length?_documentWith]
  | bytesWith data kept => rfl
  | stream events length => rfl
  | consumed => rfl
  | closed => rfl

theorem fresh_askBytes (body : Body) : body.askBytes.2.fresh = body.fresh := by
  cases body <;> rfl

theorem fresh_askDocument (body : Body) : body.askDocument.2.fresh = body.fresh := by
  cases body <;> rfl

end Body

/-! ### Messages -/

namespace Message

/-- A message whose body keeps nothing. -/
def fresh (message : Message) : Message := { message with body := message.body.fresh }

variable (message : Message)

@[simp] theorem status_fresh : message.fresh.status = message.status := rfl

@[simp] theorem headers_fresh : message.fresh.headers = message.headers := rfl

@[simp] theorem cookies_fresh : message.fresh.cookies = message.cookies := rfl

/-! What is told does not depend on what is kept. -/

@[simp] theorem isCloneable_fresh : message.fresh.isCloneable = message.isCloneable := by
  obtain ⟨status, headers, cookies, body⟩ := message
  cases body <;> rfl

@[simp] theorem bytes_fresh : message.fresh.bytes = message.bytes := message.body.bytes_fresh

@[simp] theorem document_fresh : message.fresh.document = message.document :=
  message.body.document_fresh

@[simp] theorem string_fresh : message.fresh.string = message.string := by
  show message.fresh.bytes.bind readText = message.bytes.bind readText
  rw [bytes_fresh]

@[simp] theorem stream_fresh : message.fresh.takeStream.1 = message.takeStream.1 := by
  have bytes := message.bytes_fresh
  obtain ⟨status, headers, cookies, body⟩ := message
  cases body with
  | documentWith value kept =>
    exact congrArg (Except.map fun data => [StreamEvent.bytes data]) bytes
  | bytesWith data kept => rfl
  | stream events length => rfl
  | consumed => rfl
  | closed => rfl

@[simp] theorem contentLength?_fresh : message.fresh.contentLength? = message.contentLength? := by
  unfold contentLength?
  rw [headers_fresh]
  cases message.headers.contentLength? with
  | some announced => rfl
  | none => exact message.body.length?_fresh

/-! Reading changes nothing but what is kept. -/

@[simp] theorem fresh_askBytes : message.askBytes.2.fresh = message.fresh := by
  show ({ message with body := message.body.askBytes.2.fresh } : Message) = message.fresh
  rw [Body.fresh_askBytes]
  rfl

@[simp] theorem fresh_askDocument : message.askDocument.2.fresh = message.fresh := by
  show ({ message with body := message.body.askDocument.2.fresh } : Message) = message.fresh
  rw [Body.fresh_askDocument]
  rfl

@[simp] theorem fresh_askString : message.askString.2.fresh = message.fresh :=
  message.fresh_askBytes

variable {message}

/-- A body that is not a live stream is handed out and stays. -/
theorem fresh_takeStream (read : message.isLive = false) :
    message.takeStream.2.fresh = message.fresh := by
  have kept := message.fresh_askBytes
  obtain ⟨status, headers, cookies, body⟩ := message
  cases body with
  | documentWith value rendered => exact kept
  | bytesWith data parsed => exact kept
  | stream events length => cases read
  | consumed => rfl
  | closed => rfl

/-! ### Messages that differ only in what they keep -/

section

variable {one other : Message} (same : one.fresh = other.fresh)

include same

theorem status_congr : one.status = other.status := by
  rw [← status_fresh one, same, status_fresh]

theorem headers_congr : one.headers = other.headers := by
  rw [← headers_fresh one, same, headers_fresh]

theorem cookies_congr : one.cookies = other.cookies := by
  rw [← cookies_fresh one, same, cookies_fresh]

theorem isCloneable_congr : one.isCloneable = other.isCloneable := by
  rw [← isCloneable_fresh one, same, isCloneable_fresh]

theorem bytes_congr : one.bytes = other.bytes := by
  rw [← bytes_fresh one, same, bytes_fresh]

theorem document_congr : one.document = other.document := by
  rw [← document_fresh one, same, document_fresh]

theorem string_congr : one.string = other.string := by
  rw [← string_fresh one, same, string_fresh]

theorem contentLength?_congr : one.contentLength? = other.contentLength? := by
  rw [← contentLength?_fresh one, same, contentLength?_fresh]

theorem stream_congr : one.takeStream.1 = other.takeStream.1 := by
  rw [← stream_fresh one, same, stream_fresh]

end

end Message

end Switchboard
