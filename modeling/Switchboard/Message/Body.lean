import Switchboard.Message.Stream
/-!
Bodies: what a message carries.

A body is a document, bytes, or a stream that can be read once; afterwards, or once the message is
closed, there is none. What a body is asked for is worked out at most once: a document keeps its
bytes next to it, and bytes keep the document that they hold. A body that keeps something keeps what
would be worked out, and nothing else; that is part of its type.

* `Memo.ask` gives what is kept, or works it out and keeps it.
* `Body.askBytes` and `Body.askDocument` read a body in two ways, and return it as it is afterwards.
-/

namespace Switchboard

/-! ### Work that is done once -/

section

variable {ε α : Type}

/-- The place where the value of some work is kept. -/
abbrev Memo (work : Except ε α) : Type := Option {value : α // work = .ok value}

namespace Memo

/-- Does the work and keeps its value, if there is one. -/
@[inline] def fill (work : Except ε α) : Memo work :=
  match work with
  | .ok value => some ⟨value, rfl⟩
  | .error _ => none

/-- What the work comes to, and what is kept afterwards. The work is done only if nothing is kept
yet. -/
@[inline] def ask {work : Except ε α} : Memo work → Except ε α × Memo work
  | some kept => (.ok kept.val, some kept)
  | none => (work, fill work)

/-- **What is kept is what the work comes to.** -/
@[simp] theorem ask_fst {work : Except ε α} (memo : Memo work) : memo.ask.1 = work := by
  cases memo with
  | none => rfl
  | some kept => exact kept.property.symm

end Memo

end

/-! ### Bodies -/

/-- The bytes of a document. -/
def Json.render (value : Json) : Text.Bytes := Text.Utf8.encode value.write

/-- The work of writing a document, which never fails. -/
def Json.rendering (value : Json) : Except BodyFault Text.Bytes := .ok value.render

/-- The work of reading a document from bytes; no bytes are the empty document. -/
def Json.parsing : Text.Bytes → Except BodyFault Json
  | [] => .ok .null
  | data => (Json.read data).mapError .document

/-- The body of a message. -/
inductive Body where
  /-- A document, with its bytes once they were asked for. -/
  | documentWith (value : Json) (kept : Memo value.rendering)
  /-- Bytes, with the document that they hold once it was asked for. -/
  | bytesWith (data : Text.Bytes) (kept : Memo (Json.parsing data))
  | stream (events : Stream) (length : Option Nat)
  | consumed
  | closed
  deriving Repr

namespace Body

/-- A document that nothing was asked of yet. -/
def document (value : Json) : Body := .documentWith value none

/-- Bytes that nothing was asked of yet. -/
def bytes (data : Text.Bytes) : Body := .bytesWith data none

instance : Inhabited Body := ⟨.bytes []⟩

/-- The word for the kind of a body. -/
def kind : Body → String
  | .documentWith _ _ => "document"
  | .bytesWith _ _ => "bytes"
  | .stream _ _ => "stream"
  | .consumed => "consumed"
  | .closed => "closed"

/-- The body as bytes, and the body afterwards. -/
def askBytes : Body → Except BodyFault Text.Bytes × Body
  | .documentWith value kept =>
    let asked := kept.ask
    (asked.1, .documentWith value asked.2)
  | .bytesWith data kept => (.ok data, .bytesWith data kept)
  | .stream events length => (.error .unread, .stream events length)
  | .consumed => (.error .consumed, .consumed)
  | .closed => (.error .closed, .closed)

/-- The body as a document, and the body afterwards. -/
def askDocument : Body → Except BodyFault Json × Body
  | .documentWith value kept => (.ok value, .documentWith value kept)
  | .bytesWith data kept =>
    let asked := kept.ask
    (asked.1, .bytesWith data asked.2)
  | .stream events length => (.error .unread, .stream events length)
  | .consumed => (.error .consumed, .consumed)
  | .closed => (.error .closed, .closed)

/-- The length of a body, as far as it is known. -/
def length? : Body → Option Nat
  | .documentWith _ (some kept) => some kept.val.length
  | .documentWith value none => some value.render.length
  | .bytesWith data _ => some data.length
  | .stream _ length => length
  | .consumed => none
  | .closed => none

/-! What a body tells does not depend on what it keeps. -/

section

variable (value : Json) (rendered : Memo value.rendering)

@[simp] theorem bytes_documentWith :
    (documentWith value rendered).askBytes.1 = .ok value.render := rendered.ask_fst

@[simp] theorem length?_documentWith :
    (documentWith value rendered).length? = some value.render.length := by
  cases rendered with
  | none => rfl
  | some kept =>
    have same : value.render = kept.val := Except.ok.inj kept.property
    show some kept.val.length = some value.render.length
    rw [same]

variable (data : Text.Bytes) (parsed : Memo (Json.parsing data))

@[simp] theorem document_bytesWith :
    (bytesWith data parsed).askDocument.1 = Json.parsing data := parsed.ask_fst

end

end Body

end Switchboard
