import Mathlib.Data.List.Induction
import Switchboard.Message.Stream
/-!
Streams that flow, and what stops them.

A stream is read event by event. It flows as long as bytes arrive and time passes, both within their
limits; one event too many stops it, and what would follow does not matter any more.

* `Stream.Reading`: where reading stands between two events. `Stream.drain_eq` reads step by step.
* `Stream.Flows` and `Stream.Stops`: what goes well, and what ends it, with which fault and when.
* `Stream.flows_or_stops`: every stream does one of the two.
* `Stream.drain_of_flows` and `Stream.drain_of_stops`: what comes of reading it.
* `Stream.of_drain_eq_ok`: a stream that is read into memory is the bytes that arrive in it.
-/

namespace Switchboard

namespace Stream

/-! ### Reading event by event -/

/-- Where reading stands: the bytes that are held, and the time that was spent. -/
structure Reading where
  held : Text.Bytes
  spent : Span

namespace Reading

variable {limit : Nat} {timeout : Span}

/-- Where reading starts. -/
def start : Reading := { held := [], spent := Span.zero }

/-- Reads one more event. Returns where reading stands then, or what went wrong and when. -/
def take (limit : Nat) (timeout : Span) (reading : Reading) :
    StreamEvent → Except (BodyFault × Span) Reading
  | .bytes data =>
    if limit < reading.held.length + data.length then .error (.overflow limit, reading.spent)
    else .ok { reading with held := reading.held ++ data }
  | .failure reason => .error (.stream reason, reading.spent)
  | .pause length =>
    if reading.spent + length ≤ timeout then .ok { reading with spent := reading.spent + length }
    else .error (.timeout timeout, timeout)
  | .stall => .error (.timeout timeout, timeout)

/-- Reads events one after the other. -/
def along (limit : Nat) (timeout : Span) (reading : Reading) (events : Stream) :
    Except (BodyFault × Span) Reading :=
  events.foldlM (take limit timeout) reading

/-- What reading comes to when no event is left. -/
def outcome : Except (BodyFault × Span) Reading → Except BodyFault Text.Bytes × Span
  | .ok reading => (.ok reading.held, reading.spent)
  | .error (fault, spent) => (.error fault, spent)

theorem along_append (reading : Reading) (front rest : Stream) :
    reading.along limit timeout (front ++ rest)
      = (reading.along limit timeout front).bind fun next => next.along limit timeout rest :=
  List.foldlM_append

end Reading

section

variable {limit : Nat} {timeout : Span}

/-- **Reading on** is reading event by event. -/
theorem drainFrom_eq (events : Stream) : ∀ reading : Reading,
    drainFrom limit timeout reading.held reading.spent events
      = Reading.outcome (reading.along limit timeout events) := by
  induction events with
  | nil => exact fun _ => rfl
  | cons event rest ih =>
    intro reading
    unfold Reading.along
    rw [List.foldlM_cons]
    cases event with
    | bytes data =>
      simp only [drainFrom, Reading.take]
      split
      · rfl
      · exact ih { reading with held := reading.held ++ data }
    | failure reason => rfl
    | pause length =>
      simp only [drainFrom, Reading.take]
      split
      · exact ih { reading with spent := reading.spent + length }
      · rfl
    | stall => rfl

theorem drain_eq (events : Stream) : drain limit timeout events
    = Reading.outcome (Reading.start.along limit timeout events) :=
  drainFrom_eq events Reading.start

/-- **Reading goes on from where it stands**, whatever follows. -/
theorem drain_append {front : Stream} {reading : Reading}
    (stands : Reading.start.along limit timeout front = .ok reading) (rest : Stream) :
    drain limit timeout (front ++ rest)
      = drainFrom limit timeout reading.held reading.spent rest := by
  rw [drain_eq, drainFrom_eq, Reading.along_append, stands]
  rfl

end

/-! ### What flows and what stops -/

/-- The bytes that arrive in a stream, one after the other. -/
def data (events : Stream) : Text.Bytes :=
  events.flatMap fun event => match event with
    | .bytes data => data
    | _ => []

/-- The time that an event takes. -/
def duration : StreamEvent → Span
  | .pause length => length
  | _ => Span.zero

/-- The time that passes in a stream. -/
def waited : Stream → Span
  | [] => Span.zero
  | event :: rest => duration event + waited rest

/-- Says whether an event lets a stream go on: bytes arrive, or time passes. -/
def goesOn : StreamEvent → Bool
  | .bytes _ | .pause _ => true
  | .failure _ | .stall => false

theorem data_append (front rest : Stream) : (front ++ rest).data = front.data ++ rest.data :=
  List.flatMap_append

theorem waited_append (front rest : Stream) :
    (front ++ rest).waited = front.waited + rest.waited := by
  induction front with
  | nil => exact congrArg Span.mk (Nat.zero_add rest.waited.nanos).symm
  | cons event others ih =>
    rw [List.cons_append, waited, ih]
    exact congrArg Span.mk (Nat.add_assoc _ _ _).symm

/-! What one more event adds. -/

section

variable (front : Stream) (data : Text.Bytes) (length : Span)

theorem data_bytes : (front ++ [StreamEvent.bytes data]).data = front.data ++ data :=
  (data_append front _).trans (congrArg (front.data ++ ·) (List.append_nil data))

theorem waited_bytes : (front ++ [StreamEvent.bytes data]).waited = front.waited :=
  waited_append front _

theorem data_pause : (front ++ [StreamEvent.pause length]).data = front.data :=
  (data_append front _).trans (List.append_nil front.data)

theorem waited_pause : (front ++ [StreamEvent.pause length]).waited = front.waited + length :=
  waited_append front _

end

/-- **A stream flows**: bytes arrive and time passes, both within their limits. -/
structure Flows (limit : Nat) (timeout : Span) (events : Stream) : Prop where
  goesOn : ∀ event ∈ events, Stream.goesOn event = true
  fits : events.data.length ≤ limit
  inTime : events.waited ≤ timeout

/-- **What stops a stream** after what has come so far, with which fault, and at what time. -/
inductive Stops (limit : Nat) (timeout : Span) (front : Stream) :
    StreamEvent → BodyFault → Span → Prop where
  | overflow {data : Text.Bytes} (exceeds : limit < (front.data ++ data).length) :
      Stops limit timeout front (.bytes data) (.overflow limit) front.waited
  | failure {reason : String} :
      Stops limit timeout front (.failure reason) (.stream reason) front.waited
  | late {length : Span} (late : ¬front.waited + length ≤ timeout) :
      Stops limit timeout front (.pause length) (.timeout timeout) timeout
  | stall : Stops limit timeout front .stall (.timeout timeout) timeout

section

variable {limit : Nat} {timeout spent : Span} {front rest events : Stream} {event : StreamEvent}
variable {fault : BodyFault}

theorem flows_nil : Flows limit timeout [] :=
  ⟨nofun, Nat.zero_le limit, Nat.zero_le timeout.nanos⟩

theorem Flows.of_append (flows : Flows limit timeout (front ++ rest)) :
    Flows limit timeout front where
  goesOn event member := flows.goesOn event (List.mem_append_left rest member)
  fits := by
    have fits := flows.fits
    rw [data_append, List.length_append] at fits
    omega
  inTime := by
    have inTime := flows.inTime
    rw [waited_append, Span.le_iff, Span.nanos_add] at inTime
    exact Nat.le_of_add_right_le inTime

theorem Flows.concat (flows : Flows limit timeout front) (goesOn : Stream.goesOn event = true)
    (fits : (front ++ [event]).data.length ≤ limit)
    (inTime : (front ++ [event]).waited ≤ timeout) : Flows limit timeout (front ++ [event]) where
  goesOn := List.forall_mem_append.mpr ⟨flows.goesOn, List.forall_mem_singleton.mpr goesOn⟩
  fits
  inTime

/-- What stops a stream is not part of its flow. -/
theorem Stops.not_flows (stops : Stops limit timeout front event fault spent) :
    ¬Flows limit timeout (front ++ [event]) := by
  intro flows
  have goesOn : Stream.goesOn event = true :=
    flows.goesOn event (List.mem_append_right front List.mem_cons_self)
  cases stops with
  | overflow exceeds => exact absurd (data_bytes front _ ▸ flows.fits) (Nat.not_le.mpr exceeds)
  | failure => cases goesOn
  | late late => exact late (waited_pause front _ ▸ flows.inTime)
  | stall => cases goesOn

/-- What stops a stream stops it in time. -/
theorem Stops.spent_le (stops : Stops limit timeout front event fault spent)
    (flows : Flows limit timeout front) : spent ≤ timeout := by
  cases stops with
  | overflow exceeds => exact flows.inTime
  | failure => exact flows.inTime
  | late late => exact Nat.le_refl timeout.nanos
  | stall => exact Nat.le_refl timeout.nanos

/-- One more event flows on, or it stops the stream. -/
theorem Flows.concat_or_stops (flows : Flows limit timeout front) (event : StreamEvent) :
    Flows limit timeout (front ++ [event]) ∨
      ∃ fault spent, Stops limit timeout front event fault spent := by
  cases event with
  | bytes data =>
    by_cases exceeds : limit < (front.data ++ data).length
    · exact Or.inr ⟨_, _, .overflow exceeds⟩
    · refine Or.inl (flows.concat rfl ?_ ?_)
      · rw [data_bytes]
        exact Nat.not_lt.mp exceeds
      · rw [waited_bytes]
        exact flows.inTime
  | failure reason => exact Or.inr ⟨_, _, .failure⟩
  | pause length =>
    by_cases inTime : front.waited + length ≤ timeout
    · refine Or.inl (flows.concat rfl ?_ ?_)
      · rw [data_pause]
        exact flows.fits
      · rw [waited_pause]
        exact inTime
    · exact Or.inr ⟨_, _, .late inTime⟩
  | stall => exact Or.inr ⟨_, _, .stall⟩

/-- **Every stream flows to its end, or something stops it.** -/
theorem flows_or_stops (limit : Nat) (timeout : Span) (events : Stream) :
    Flows limit timeout events ∨ ∃ front event rest fault spent,
      events = front ++ event :: rest ∧ Flows limit timeout front ∧
        Stops limit timeout front event fault spent := by
  induction events using List.reverseRecOn with
  | nil => exact Or.inl flows_nil
  | append_singleton front event ih =>
    rcases ih with flows | ⟨early, stopper, rest, fault, spent, rfl, flows, stops⟩
    · rcases flows.concat_or_stops event with onward | ⟨fault, spent, stops⟩
      · exact Or.inl onward
      · exact Or.inr ⟨front, event, [], fault, spent, rfl, flows, stops⟩
    · refine Or.inr ⟨early, stopper, rest ++ [event], fault, spent, ?_, flows, stops⟩
      rw [List.append_assoc, List.cons_append]

/-! ### Reading what flows -/

/-- Where reading stands after what has flowed. -/
def Reading.after (front : Stream) : Reading := { held := front.data, spent := front.waited }

theorem Reading.take_of_flows (flows : Flows limit timeout (front ++ [event])) :
    (Reading.after front).take limit timeout event = .ok (.after (front ++ [event])) := by
  have goesOn : Stream.goesOn event = true :=
    flows.goesOn event (List.mem_append_right front List.mem_cons_self)
  unfold after
  cases event with
  | bytes data =>
    have fits : ¬limit < front.data.length + data.length := by
      rw [← List.length_append, ← data_bytes]
      exact Nat.not_lt.mpr flows.fits
    rw [data_bytes, waited_bytes]
    exact if_neg fits
  | failure reason => cases goesOn
  | pause length =>
    have inTime : front.waited + length ≤ timeout := waited_pause front length ▸ flows.inTime
    rw [data_pause, waited_pause]
    exact if_pos inTime
  | stall => cases goesOn

theorem Reading.take_of_stops (stops : Stops limit timeout front event fault spent) :
    (Reading.after front).take limit timeout event = .error (fault, spent) := by
  cases stops with
  | overflow exceeds =>
    rw [List.length_append] at exceeds
    exact if_pos exceeds
  | failure => rfl
  | late late => exact if_neg late
  | stall => rfl

/-- **What flows is held.** -/
theorem Reading.along_of_flows (flows : Flows limit timeout events) :
    start.along limit timeout events = .ok (.after events) := by
  induction events using List.reverseRecOn with
  | nil => rfl
  | append_singleton front event ih =>
    rw [along_append, ih flows.of_append]
    show ((after front).take limit timeout event).bind .ok = _
    rw [take_of_flows flows]
    rfl

/-- **Reading ends with what stops a stream**, whatever would follow. -/
theorem Reading.along_of_stops (flows : Flows limit timeout front)
    (stops : Stops limit timeout front event fault spent) (rest : Stream) :
    start.along limit timeout (front ++ event :: rest) = .error (fault, spent) := by
  rw [along_append, along_of_flows flows]
  show ((after front).take limit timeout event).bind (fun next => next.along limit timeout rest) = _
  rw [take_of_stops stops]
  rfl

/-- Where reading stands in a stream that nothing has stopped. -/
theorem Reading.along_eq_ok_iff {reading : Reading} :
    start.along limit timeout events = .ok reading ↔
      Flows limit timeout events ∧ reading = .after events := by
  constructor
  · intro stands
    rcases flows_or_stops limit timeout events with
      flows | ⟨front, event, rest, fault, spent, rfl, flows, stops⟩
    · exact ⟨flows, Except.ok.inj (stands.symm.trans (along_of_flows flows))⟩
    · rw [along_of_stops flows stops rest] at stands
      cases stands
  · rintro ⟨flows, rfl⟩
    exact along_of_flows flows

/-- **A stream that flows** is read to its end. -/
theorem drain_of_flows (flows : Flows limit timeout events) :
    drain limit timeout events = (.ok events.data, events.waited) := by
  rw [drain_eq, Reading.along_of_flows flows]
  rfl

/-- **A stream that something stops** is read until then, whatever would follow. -/
theorem drain_of_stops (flows : Flows limit timeout front)
    (stops : Stops limit timeout front event fault spent) (rest : Stream) :
    drain limit timeout (front ++ event :: rest) = (.error fault, spent) := by
  rw [drain_eq, Reading.along_of_stops flows stops]
  rfl

/-- **A stream that is read into memory** flows, and it is the bytes that arrive in it. -/
theorem of_drain_eq_ok {read : Text.Bytes}
    (drained : drain limit timeout events = (.ok read, spent)) :
    Flows limit timeout events ∧ read = events.data ∧ spent = events.waited := by
  rcases flows_or_stops limit timeout events with
    flows | ⟨front, event, rest, fault, spent, rfl, flows, stops⟩
  · rw [drain_of_flows flows] at drained
    cases drained
    exact ⟨flows, rfl, rfl⟩
  · rw [drain_of_stops flows stops] at drained
    cases drained

/-- Reading a stream takes no more time than is given, whether it ends well or not. -/
theorem drain_spent_le (limit : Nat) (timeout : Span) (events : Stream) :
    (drain limit timeout events).2 ≤ timeout := by
  rcases flows_or_stops limit timeout events with
    flows | ⟨front, event, rest, fault, spent, rfl, flows, stops⟩
  · rw [drain_of_flows flows]
    exact flows.inTime
  · rw [drain_of_stops flows stops]
    exact stops.spent_le flows

end

end Stream

end Switchboard
