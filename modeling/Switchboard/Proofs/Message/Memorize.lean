import Switchboard.Message.Basic
import Switchboard.Proofs.Message.Flow
/-!
Reading bodies into memory, within a limit of bytes and of time.

* `Message.memorize_ok`: after a success, a body that was in memory is as it was, and any other one
  is bytes within the limit.
* `Message.memorize_spent_le`: no more time passes than is given.
-/

namespace Switchboard

namespace Message

/-- The bytes of a body in memory can be had. -/
theorem bytes_of_isCloneable {message : Message} (inMemory : message.isCloneable = true) :
    ∃ data, message.bytes = .ok data := by
  obtain ⟨status, headers, cookies, body⟩ := message
  cases body with
  | documentWith value kept => exact ⟨value.render, Body.bytes_documentWith value kept⟩
  | bytesWith data kept => exact ⟨data, rfl⟩
  | stream events length => cases inMemory
  | consumed => cases inMemory
  | closed => cases inMemory

theorem bytes_of_body {message : Message} {data : Text.Bytes} (body : message.body = .bytes data) :
    message.bytes = .ok data := by
  show message.body.askBytes.1 = .ok data
  rw [body]
  rfl

/-- A body of which the bytes can be had is in memory. -/
theorem isCloneable_of_bytes {message : Message} {data : Text.Bytes}
    (read : message.bytes = .ok data) : message.isCloneable = true := by
  obtain ⟨status, headers, cookies, body⟩ := message
  cases body with
  | documentWith value kept => rfl
  | bytesWith data kept => rfl
  | stream events length => cases read
  | consumed => cases read
  | closed => cases read

/-- Just a message with its body in memory has a copy, and that is the message itself. -/
theorem copy_eq_ok_iff {message copy : Message} :
    message.copy = .ok copy ↔ message.isCloneable = true ∧ copy = message := by
  obtain ⟨status, headers, cookies, body⟩ := message
  cases body with
  | documentWith value kept => exact ⟨fun copied => ⟨rfl, (Except.ok.inj copied).symm⟩, fun same => by
      rw [same.2]
      rfl⟩
  | bytesWith data kept => exact ⟨fun copied => ⟨rfl, (Except.ok.inj copied).symm⟩, fun same => by
      rw [same.2]
      rfl⟩
  | stream events length => exact ⟨(nomatch ·), fun inMemory => nomatch inMemory.1⟩
  | consumed => exact ⟨(nomatch ·), fun inMemory => nomatch inMemory.1⟩
  | closed => exact ⟨(nomatch ·), fun inMemory => nomatch inMemory.1⟩

/-- What is in memory is no stream that has not been read. -/
theorem isLive_of_isCloneable {message : Message} (inMemory : message.isCloneable = true) :
    message.isLive = false := by
  obtain ⟨status, headers, cookies, body⟩ := message
  cases body <;> cases inMemory <;> rfl

/-- A body in memory is handed out as a stream of its bytes. -/
theorem takeStream_of_bytes {message : Message} {data : Text.Bytes}
    (read : message.bytes = .ok data) : message.takeStream.1 = .ok [.bytes data] := by
  have mapped := congrArg (Except.map fun data => [StreamEvent.bytes data]) read
  obtain ⟨status, headers, cookies, body⟩ := message
  cases body with
  | documentWith value kept => exact mapped
  | bytesWith bytes kept => exact mapped
  | stream events length => cases read
  | consumed => cases read
  | closed => cases read

/-- A stream that has not been read is not in memory. -/
theorem isCloneable_of_isLive {message : Message} (live : message.isLive = true) :
    message.isCloneable = false := by
  obtain ⟨status, headers, cookies, body⟩ := message
  cases body <;> cases live
  rfl

/-- The known length of a body in memory is that of its bytes. -/
theorem length_of_bytes {message : Message} {data : Text.Bytes} (read : message.bytes = .ok data) :
    message.body.length? = some data.length := by
  obtain ⟨status, headers, cookies, body⟩ := message
  cases body with
  | documentWith value kept =>
    have same : (.ok value.render : Except BodyFault Text.Bytes) = .ok data :=
      (Body.bytes_documentWith value kept).symm.trans read
    rw [← Except.ok.inj same]
    exact Body.length?_documentWith value kept
  | bytesWith bytes kept =>
    cases read
    rfl
  | stream events length => cases read
  | consumed => cases read
  | closed => cases read

theorem memorize_of_isCloneable {message : Message} (inMemory : message.isCloneable = true)
    (limit : Nat) (timeout : Span) :
    message.memorize limit timeout = (.ok (), message, Span.zero) := by
  obtain ⟨status, headers, cookies, body⟩ := message
  cases body with
  | documentWith value kept => rfl
  | bytesWith data kept => rfl
  | stream events length => cases inMemory
  | consumed => cases inMemory
  | closed => cases inMemory

/-- **What becomes of a live stream**: it is consumed, or its bytes are in memory. -/
theorem memorize_of_stream {message : Message} {events : Stream} {length : Option Nat}
    (live : message.body = .stream events length) (limit : Nat) (timeout : Span) :
    (∃ fault spent, message.memorize limit timeout
        = (.error fault, { message with body := .consumed }, spent)) ∨
      ∃ data headers spent, Stream.drain limit timeout events = (.ok data, spent) ∧
        message.memorize limit timeout
          = (.ok (), { message with headers, body := .bytes data }, spent) := by
  unfold memorize
  rw [live]
  by_cases tooLong : length.any (limit < ·) = true
  · simp only [if_pos tooLong]
    exact Or.inl ⟨_, _, rfl⟩
  · simp only [if_neg tooLong]
    rcases Stream.drain limit timeout events with ⟨fault | data, spent⟩
    · exact Or.inl ⟨_, _, rfl⟩
    · exact Or.inr ⟨_, _, _, rfl, rfl⟩

/-- **A body that was read into memory** was there before, and nothing happened to the message, or
it is bytes within the limit now. -/
theorem memorize_ok {message memorized : Message} {limit : Nat} {timeout spent : Span}
    (read : message.memorize limit timeout = (.ok (), memorized, spent)) :
    (message.isCloneable = true ∧ memorized = message ∧ spent = Span.zero) ∨
      (message.isCloneable = false ∧
        ∃ data, memorized.body = .bytes data ∧ data.length ≤ limit) := by
  obtain ⟨status, headers, cookies, body⟩ := message
  cases body with
  | documentWith value kept =>
    cases read
    exact Or.inl ⟨rfl, rfl, rfl⟩
  | bytesWith data kept =>
    cases read
    exact Or.inl ⟨rfl, rfl, rfl⟩
  | consumed => cases read
  | closed => cases read
  | stream events length =>
    right
    have live : (Message.mk status headers cookies (.stream events length)).body
        = .stream events length := rfl
    rcases memorize_of_stream live limit timeout with
      ⟨fault, _, failed⟩ | ⟨data, _, _, drained, done⟩
    · rw [failed] at read
      cases read
    · rw [done] at read
      cases read
      obtain ⟨flows, rfl, -⟩ := Stream.of_drain_eq_ok drained
      exact ⟨rfl, _, rfl, flows.fits⟩

/-- After a success the body is in memory. -/
theorem isCloneable_of_memorize {message memorized : Message} {limit : Nat} {timeout spent : Span}
    (read : message.memorize limit timeout = (.ok (), memorized, spent)) :
    memorized.isCloneable = true := by
  rcases memorize_ok read with ⟨inMemory, rfl, _⟩ | ⟨_, data, bytes, _⟩
  · exact inMemory
  · unfold isCloneable
    rw [bytes]
    rfl

/-- Reading a body into memory takes no more time than is given. -/
theorem memorize_spent_le (message : Message) (limit : Nat) (timeout : Span) :
    (message.memorize limit timeout).2.2 ≤ timeout := by
  obtain ⟨status, headers, cookies, body⟩ := message
  cases body with
  | documentWith value kept => exact Nat.zero_le _
  | bytesWith data kept => exact Nat.zero_le _
  | consumed => exact Nat.zero_le _
  | closed => exact Nat.zero_le _
  | stream events length =>
    simp only [memorize]
    split
    · exact Nat.zero_le _
    · have inTime := Stream.drain_spent_le limit timeout events
      split <;> rename_i drained <;> rw [drained] at inTime <;> exact inTime

end Message

end Switchboard
