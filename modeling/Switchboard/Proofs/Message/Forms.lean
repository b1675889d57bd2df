import Switchboard.Feature.Extraction
import Switchboard.Proofs.Headers.Values
import Switchboard.Proofs.Message.Memorize
import Switchboard.Proofs.Number.Decimal
/-!
One document in several forms.

A document can be sent as it is, as the bytes that it is written in, or as a stream that brings these
bytes in pieces. Read into memory, all three hold the same.

* `Message.Carries`: the messages that carry a document.
* `Message.Holds`: what such a message is once it is in memory.
* `Message.Carries.memorize`: either a message that carries a document is in memory then and holds
  it, or the document is longer than the limit.
-/

namespace Switchboard

/-! ### Headers that are not touched -/

theorem Headers.contentLength?_of_contains {headers : Headers}
    (unannounced : headers.contains Headers.contentLengthName = false) :
    headers.contentLength? = none := by
  have absent : headers.get? contentLengthName = none := by
    rw [get?_eq_head?, contains_eq_false_iff.mp unannounced]
    rfl
  unfold contentLength?
  rw [absent]
  rfl

/-! ### Streams in pieces -/

/-- **Pieces that arrive at once** are read as what they make up, if that is within the limit. -/
theorem Stream.drainFrom_chunks (limit : Nat) (timeout spent : Span) (chunks : List Text.Bytes) :
    ∀ held : Text.Bytes, held.length ≤ limit →
      drainFrom limit timeout held spent (chunks.map .bytes)
        = if (held ++ chunks.flatten).length ≤ limit then (.ok (held ++ chunks.flatten), spent)
          else (.error (.overflow limit), spent) := by
  induction chunks with
  | nil =>
    intro held within
    rw [List.flatten_nil, List.append_nil, if_pos within]
    rfl
  | cons chunk rest ih =>
    intro held within
    rw [List.flatten_cons, ← List.append_assoc]
    show (if limit < held.length + chunk.length then _ else _) = _
    by_cases long : limit < held.length + chunk.length
    · have stillLong : ¬ ((held ++ chunk) ++ rest.flatten).length ≤ limit := by
        simp only [List.length_append]
        omega
      rw [if_pos long, if_neg stillLong]
    · rw [if_neg long]
      exact ih (held ++ chunk) (by rw [List.length_append]; exact Nat.not_lt.mp long)

/-! ### Messages that carry a document -/

namespace Message

/-- **A message carries a document**: as it is, as its bytes, or as a stream of pieces that make up
its bytes, of which the length is announced or not. -/
inductive Carries (headers : Headers) (value : Json) : Message → Prop where
  | document : Carries headers value (.ofDocument .ok headers value)
  | bytes : Carries headers value (.ofBytes .ok headers mimeJson value.render)
  | stream {chunks : List Text.Bytes} {announced : Option Nat}
      (whole : chunks.flatten = value.render)
      (announces : announced = none ∨ announced = some value.render.length) :
      Carries headers value (.ofStream .ok headers mimeJson (chunks.map .bytes) announced)

/-- **A message holds a document** in memory, and has no cookies but those in the headers. -/
structure Holds (headers : Headers) (value : Json) (message : Message) : Prop where
  bytes : message.bytes = .ok value.render
  document : message.document = .ok value
  cookies : message.cookies = []
  written : message.headers.getAll cookieHeader = headers.getAll cookieHeader
  length : message.contentLength? = some value.render.length

/-- What is held in memory is held with its length, if no other length is announced. -/
theorem Holds.of_contentLength? {headers : Headers} {value : Json} {message : Message}
    (bytes : message.bytes = .ok value.render) (document : message.document = .ok value)
    (cookies : message.cookies = [])
    (written : message.headers.getAll cookieHeader = headers.getAll cookieHeader)
    (announced : message.headers.contentLength? = some value.render.length ∨
      message.headers.contentLength? = none) : message.Holds headers value := by
  refine ⟨bytes, document, cookies, written, ?_⟩
  unfold contentLength?
  rcases announced with told | untold
  · rw [told]
  · rw [untold]
    exact length_of_bytes bytes

section

variable {headers : Headers} {value : Json} {message : Message}

/-- A type in the headers of a message touches neither cookies nor lengths. -/
theorem withBody_headers (unannounced : headers.contains Headers.contentLengthName = false)
    (contentType : String) (body : Body) :
    let made := withBody .ok headers contentType body
    made.headers.getAll cookieHeader = headers.getAll cookieHeader ∧
      made.headers.contains Headers.contentLengthName = false := by
  intro made
  have keeps : ∀ other, Text.sameName Headers.contentTypeName other = false →
      made.headers.getAll other = headers.getAll other := by
    intro other differs
    show (if headers.contains Headers.contentTypeName then headers
      else headers.insert Headers.contentTypeName contentType).getAll other = _
    split
    · rfl
    · exact Headers.getAll_insert_of_differs differs contentType
  refine ⟨keeps _ (by decide +kernel), Headers.contains_eq_false_iff.mpr ?_⟩
  rw [keeps _ (by decide +kernel)]
  exact Headers.contains_eq_false_iff.mp unannounced

/-- What carries a document in memory holds it. -/
theorem holds_of_withBody (unannounced : headers.contains Headers.contentLengthName = false)
    {body : Body} (bytes : body.askBytes.1 = .ok value.render)
    (document : body.askDocument.1 = .ok value) :
    (withBody .ok headers mimeJson body).Holds headers value := by
  obtain ⟨written, stillUnannounced⟩ := withBody_headers unannounced mimeJson body
  exact .of_contentLength? bytes document rfl written
    (Or.inr (Headers.contentLength?_of_contains stillUnannounced))

/-- A stream that is read to its end leaves its bytes, and their length in the headers. -/
theorem memorize_of_drained {events : Stream} {length : Option Nat} {limit : Nat} {timeout : Span}
    {data : Text.Bytes} {spent : Span} (live : message.body = .stream events length)
    (fits : length.any (limit < ·) = false)
    (drained : Stream.drain limit timeout events = (.ok data, spent))
    (unannounced : message.headers.contains Headers.contentLengthName = false) :
    message.memorize limit timeout = (.ok (),
      { message with
        headers := message.headers.insert Headers.contentLengthName (Text.decimal data.length)
        body := .bytes data }, spent) := by
  unfold memorize
  rw [live]
  simp only [fits, drained, unannounced]
  rfl

/-- A stream that is longer than the limit, as it announces or as it turns out, is not kept. -/
theorem memorize_of_overflow {events : Stream} {length : Option Nat} {limit : Nat} {timeout : Span}
    (live : message.body = .stream events length)
    (drained : Stream.drain limit timeout events = (.error (.overflow limit), Span.zero)) :
    ∃ left, message.memorize limit timeout = (.error (.overflow limit), left, Span.zero) := by
  unfold memorize
  rw [live]
  simp only [drained]
  split
  · exact ⟨_, rfl⟩
  · exact ⟨_, rfl⟩

/-- **Whatever form a document is sent in**, the message holds it once it is in memory, at once; or
the document is longer than the limit, and the stream is not read to its end. -/
theorem Carries.memorize (carries : message.Carries headers value)
    (unannounced : headers.contains Headers.contentLengthName = false) (something : value ≠ .null)
    (reads : Json.parsing value.render = .ok value) (limit : Nat) (timeout : Span) :
    (∃ memorized, message.memorize limit timeout = (.ok (), memorized, Span.zero) ∧
      memorized.Holds headers value) ∨
    (limit < value.render.length ∧ ∃ left,
      message.memorize limit timeout = (.error (.overflow limit), left, Span.zero)) := by
  cases carries with
  | document =>
    have made : ofDocument .ok headers value
        = withBody .ok headers mimeJson (.document value) := by
      cases value with
      | null => exact absurd rfl something
      | _ => rfl
    rw [made]
    refine Or.inl ⟨_, memorize_of_isCloneable rfl _ _, holds_of_withBody unannounced ?_ rfl⟩
    exact Body.bytes_documentWith value none
  | bytes =>
    refine Or.inl ⟨_, memorize_of_isCloneable rfl _ _, holds_of_withBody unannounced rfl ?_⟩
    exact (Body.document_bytesWith value.render none).trans reads
  | @stream chunks announced whole announces =>
    have drained := Stream.drainFrom_chunks limit timeout Span.zero chunks [] (Nat.zero_le _)
    rw [List.nil_append, whole] at drained
    by_cases within : value.render.length ≤ limit
    · rw [if_pos within] at drained
      have fits : announced.any (limit < ·) = false := by
        rcases announces with rfl | rfl
        · rfl
        · exact decide_eq_false (Nat.not_lt.mpr within)
      obtain ⟨written, noLength⟩ := withBody_headers unannounced mimeJson
        (.stream (chunks.map .bytes) announced)
      refine Or.inl ⟨_, memorize_of_drained rfl fits drained noLength, ?_⟩
      refine .of_contentLength? rfl ?_ rfl ?_ (Headers.contentLength?_insert _ _)
      · exact (Body.document_bytesWith value.render none).trans reads
      · exact (Headers.getAll_insert_of_differs (by decide +kernel) _).trans written
    · rw [if_neg within] at drained
      exact Or.inr ⟨Nat.not_le.mp within, memorize_of_overflow rfl drained⟩

end

end Message

end Switchboard
