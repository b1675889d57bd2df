import Switchboard.Message.Fault
/-!
Bodies that arrive over time.

A stream is the list of what will happen to it: bytes arrive, time passes, reading fails, or nothing
happens ever again. It ends well when the list does.

* `Stream.drain` reads a stream into memory within a limit of bytes and of time. Of several ends the
  one that comes first counts, and what ends exactly at the limit of time has ended in time.
* `Stream.readNow` reads a stream as far as it goes without waiting.
-/

namespace Switchboard

/-- One thing that happens to a stream. -/
inductive StreamEvent where
  | bytes (data : Text.Bytes)
  | failure (reason : String)
  | pause (length : Span)
  | stall
  deriving DecidableEq, Repr

/-- What will happen to a stream. -/
abbrev Stream := List StreamEvent

namespace Stream

/-- Reads on after `held` bytes and `spent` time. Returns the bytes or what went wrong, and the time
that has been spent then. -/
def drainFrom (limit : Nat) (timeout : Span) (held : Text.Bytes) (spent : Span) :
    Stream → Except BodyFault Text.Bytes × Span
  | [] => (.ok held, spent)
  | .bytes data :: rest =>
    if limit < held.length + data.length then (.error (.overflow limit), spent)
    else drainFrom limit timeout (held ++ data) spent rest
  | .failure reason :: _ => (.error (.stream reason), spent)
  | .pause length :: rest =>
    if spent + length ≤ timeout then drainFrom limit timeout held (spent + length) rest
    else (.error (.timeout timeout), timeout)
  | .stall :: _ => (.error (.timeout timeout), timeout)

/-- Reads a stream into memory. -/
def drain (limit : Nat) (timeout : Span) (stream : Stream) : Except BodyFault Text.Bytes × Span :=
  drainFrom limit timeout [] Span.zero stream

/-- Reads a stream piece by piece, with the reasons of its failures among the pieces; `none` if
there is anything to wait for. -/
def readNow : Stream → Option (List (Except String Text.Bytes))
  | [] => some []
  | .bytes data :: rest => (readNow rest).map (.ok data :: ·)
  | .failure reason :: rest => (readNow rest).map (.error reason :: ·)
  | .pause _ :: _ => none
  | .stall :: _ => none

end Stream

end Switchboard
