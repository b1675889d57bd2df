import Mathlib.Data.Seq.Basic
import Switchboard.Proofs.Message.Memorize
/-!
What comes of reading a stream into memory, even if it goes on for ever.

The course of a stream is a list of events or an endless sequence of them. Reading comes to a result
once enough of the course is known, so what would follow makes no difference, and there need not be
an end of it. It comes to what is met first: a length that is too long, an event that stops the
stream, or its end.

* `Stream.Course`: what will happen to a stream, which may go on for ever.
* `Message.ComesTo`: what reading a course into memory comes to.
* `Message.Memorized`: what it comes to by what is met first.
* `Message.memorize_course`: just this, at most one result, and none only if the stream flows for
  ever; and never are more bytes held than the limit.
-/

namespace Switchboard

/-! ### Headers with a length -/

namespace Headers

variable {headers : Headers} {name : String}

/-- A new name goes to the end. -/
theorem insert_of_contains (absent : headers.contains name = false) (value : String) :
    headers.insert name value = headers.append name value := by
  have toTheEnd : ∀ entries : List Header, entries.any (Header.isNamed name) = false →
      replaceFirst name value entries = entries ++ [⟨name, value⟩] := by
    intro entries
    induction entries with
    | nil => exact fun _ => rfl
    | cons header rest ih =>
      intro unnamed
      obtain ⟨here, after⟩ := Bool.or_eq_false_iff.mp unnamed
      unfold replaceFirst
      rw [if_neg (Bool.eq_false_iff.mp here), ih after]
      rfl
  exact congrArg Headers.mk (toTheEnd headers.entries absent)

/-- Headers with the length of a body at their end, unless they tell one already. -/
def announcing (headers : Headers) (length : Nat) : Headers :=
  if headers.contains contentLengthName then headers
  else headers.append contentLengthName (Text.decimal length)

theorem announcing_eq (headers : Headers) (length : Nat) :
    (if headers.contains contentLengthName then headers
      else headers.insert contentLengthName (Text.decimal length)) = headers.announcing length := by
  unfold announcing
  by_cases told : headers.contains contentLengthName = true
  · rw [if_pos told, if_pos told]
  · rw [if_neg told, if_neg told, insert_of_contains (Bool.eq_false_iff.mpr told)]

end Headers

/-! ### Courses -/

namespace Stream

/-- What will happen to a stream, which may go on for ever. -/
abbrev Course := Stream'.Seq StreamEvent

namespace Course

variable {course : Course} {front : Stream} {few many : Nat}

/-- Says that a course begins with what is given. -/
def Begins (course : Course) (front : Stream) : Prop := course.take front.length = front

theorem take_isPrefix (course : Course) (fewer : few ≤ many) :
    course.take few <+: course.take many := by
  refine List.prefix_iff_getElem?.mpr fun place within => ?_
  have placed : place < few := Nat.lt_of_lt_of_le within Stream'.Seq.length_take_le
  have same := Stream'.Seq.getElem?_take place few course
  rw [if_pos placed, List.getElem?_eq_getElem within] at same
  rw [Stream'.Seq.getElem?_take, if_pos (Nat.lt_of_lt_of_le placed fewer), same]

theorem begins_of_isPrefix (isPrefix : front <+: course.take many) : course.Begins front := by
  have within : front.length ≤ many :=
    isPrefix.length_le.trans Stream'.Seq.length_take_le
  refine List.ext_getElem? fun place => ?_
  rw [Stream'.Seq.getElem?_take]
  by_cases placed : place < front.length
  · have taken : (course.take many)[place]? = front[place]? :=
      (List.prefix_iff_getElem?.mp isPrefix place placed).trans
        (List.getElem?_eq_getElem placed).symm
    rw [if_pos placed, ← taken, Stream'.Seq.getElem?_take,
      if_pos (Nat.lt_of_lt_of_le placed within)]
  · rw [if_neg placed, List.getElem?_eq_none (Nat.not_lt.mp placed)]

/-- A course that has ended is what was taken of it. -/
theorem eq_ofList_of_terminatedAt (ended : course.TerminatedAt many) :
    course = .ofList (course.take many) := by
  refine Stream'.Seq.ext fun place => ?_
  rw [Stream'.Seq.ofList_get?, Stream'.Seq.getElem?_take]
  by_cases placed : place < many
  · rw [if_pos placed]
  · rw [if_neg placed]
    exact course.terminated_stable (Nat.not_lt.mp placed) ended

theorem take_ofList (events : Stream) (count : Nat) :
    Stream'.Seq.take count (.ofList events) = events.take count := by
  refine List.ext_getElem? fun place => ?_
  rw [Stream'.Seq.getElem?_take, Stream'.Seq.ofList_get?, List.getElem?_take]

theorem begins_ofList (events : Stream) : Begins (.ofList events) events :=
  (take_ofList events events.length).trans events.take_length

/-- Nothing more can be taken of a course that has ended. -/
theorem take_of_terminatedAt (fewer : few ≤ many) (ended : course.TerminatedAt few) :
    course.take many = course.take few := by
  refine List.ext_getElem? fun place => ?_
  rw [Stream'.Seq.getElem?_take, Stream'.Seq.getElem?_take]
  by_cases placed : place < few
  · rw [if_pos placed, if_pos (Nat.lt_of_lt_of_le placed fewer)]
  · rw [if_neg placed]
    split
    · exact course.terminated_stable (Nat.not_lt.mp placed) ended
    · rfl

/-- Every course flows for a while, or something has stopped it by then. -/
theorem flows_or_stops (limit : Nat) (timeout : Span) (course : Course) (count : Nat) :
    Flows limit timeout (course.take count) ∨ ∃ front event rest fault spent,
      course.take count = front ++ event :: rest ∧ course.Begins (front ++ [event]) ∧
        Flows limit timeout front ∧ Stops limit timeout front event fault spent := by
  rcases Stream.flows_or_stops limit timeout (course.take count) with
    flows | ⟨front, event, rest, fault, spent, taken, flows, stops⟩
  · exact Or.inl flows
  · have isPrefix : front ++ [event] <+: course.take count :=
      ⟨rest, by rw [taken, List.append_assoc]; rfl⟩
    have begins := begins_of_isPrefix isPrefix
    exact Or.inr ⟨front, event, rest, fault, spent, taken, begins, flows, stops⟩

end Course

end Stream

/-! ### Messages -/

open Switchboard.Stream (Course Flows Stops Reading)

namespace Message

variable {message : Message} {announced : Option Nat} {limit : Nat} {timeout spent : Span}
variable {front rest events : Stream} {event : StreamEvent} {fault : BodyFault} {course : Course}
variable {result : Except BodyFault Unit × Message × Span}

/-- A message with a live stream in place of its body, of which the length may be announced. -/
def streaming (message : Message) (events : Stream) (announced : Option Nat) : Message :=
  { message with body := .stream events announced }

/-- What reading a course into memory comes to is settled by its first events, whatever follows.
Nothing follows a course that has ended. -/
def SettledBy (message : Message) (announced : Option Nat) (limit : Nat) (timeout : Span)
    (course : Course) (count : Nat) (result : Except BodyFault Unit × Message × Span) : Prop :=
  ∀ rest : Stream, (course.TerminatedAt count → rest = []) →
    (message.streaming (course.take count ++ rest) announced).memorize limit timeout = result

/-- **Reading a course into memory comes to a result** once enough is known of the course. -/
def ComesTo (message : Message) (announced : Option Nat) (limit : Nat) (timeout : Span)
    (course : Course) (result : Except BodyFault Unit × Message × Span) : Prop :=
  ∃ count, message.SettledBy announced limit timeout course count result

/-- **What comes of reading a course into memory**, by what comes first. -/
inductive Memorized (message : Message) (announced : Option Nat) (limit : Nat) (timeout : Span)
    (course : Course) : Except BodyFault Unit × Message × Span → Prop where
  /-- What is announced to be too long is not read. -/
  | refused {length : Nat} (announces : announced = some length) (tooLong : limit < length) :
      Memorized message announced limit timeout course
        (.error (.overflow limit), { message with body := .consumed }, Span.zero)
  /-- The stream flows to its end, and all its bytes are in memory. -/
  | whole {events : Stream} (fits : ∀ length ∈ announced, length ≤ limit)
      (ends : course = .ofList events) (flows : Flows limit timeout events) :
      Memorized message announced limit timeout course
        (.ok (), { message with
          headers := message.headers.announcing events.data.length
          body := .bytes events.data }, events.waited)
  /-- The stream flows until something stops it, and there is no body any more. -/
  | stopped {front : Stream} {event : StreamEvent} {fault : BodyFault} {spent : Span}
      (fits : ∀ length ∈ announced, length ≤ limit) (begins : course.Begins (front ++ [event]))
      (flows : Flows limit timeout front) (stops : Stops limit timeout front event fault spent) :
      Memorized message announced limit timeout course
        (.error fault, { message with body := .consumed }, spent)

/-! ### Streams that end -/

theorem memorize_of_tooLong {length : Nat} (announces : announced = some length)
    (tooLong : limit < length) :
    (message.streaming events announced).memorize limit timeout
      = (.error (.overflow limit), { message with body := .consumed }, Span.zero) := by
  rw [announces]
  exact if_pos (decide_eq_true tooLong)

/-- A stream that may fit is read. -/
theorem memorize_of_fits (fits : ∀ length ∈ announced, length ≤ limit) :
    (message.streaming events announced).memorize limit timeout
      = match Stream.drain limit timeout events with
        | (.error fault, spent) => (.error fault, { message with body := .consumed }, spent)
        | (.ok data, spent) => (.ok (), { message with
            headers := message.headers.announcing data.length, body := .bytes data }, spent) := by
  have notTooLong : ¬announced.any (limit < ·) = true := by
    cases announced with
    | none => exact nofun
    | some length =>
      exact fun exceeds =>
        absurd (fits length rfl) (Nat.not_le.mpr (of_decide_eq_true exceeds))
  simp only [memorize, streaming, if_neg notTooLong]
  rcases Stream.drain limit timeout events with ⟨fault | data, spent⟩
  · rfl
  · simp only
    rw [← Headers.announcing_eq]
    rfl

/-- **A stream that flows to its end** is in memory then. -/
theorem memorize_of_flows (fits : ∀ length ∈ announced, length ≤ limit)
    (flows : Flows limit timeout events) :
    (message.streaming events announced).memorize limit timeout
      = (.ok (), { message with
          headers := message.headers.announcing events.data.length
          body := .bytes events.data }, events.waited) := by
  rw [memorize_of_fits fits, Stream.drain_of_flows flows]

/-- **A stream that something stops** is lost, whatever would follow. -/
theorem memorize_of_stops (fits : ∀ length ∈ announced, length ≤ limit)
    (flows : Flows limit timeout front) (stops : Stops limit timeout front event fault spent)
    (rest : Stream) :
    (message.streaming (front ++ event :: rest) announced).memorize limit timeout
      = (.error fault, { message with body := .consumed }, spent) := by
  rw [memorize_of_fits fits, Stream.drain_of_stops flows stops]

/-! ### Streams that may go on for ever -/

/-- What reading comes to is what comes first. -/
theorem ComesTo.memorized (comesTo : message.ComesTo announced limit timeout course result) :
    message.Memorized announced limit timeout course result := by
  obtain ⟨count, settled⟩ := comesTo
  have ended : (message.streaming (course.take count) announced).memorize limit timeout = result :=
    List.append_nil (course.take count) ▸ settled [] fun _ => rfl
  by_cases fits : ∀ length ∈ announced, length ≤ limit
  · rcases course.flows_or_stops limit timeout count with
      flows | ⟨front, event, rest, fault, spent, taken, begins, flows, stops⟩
    · by_cases terminated : course.TerminatedAt count
      · rw [← ended, memorize_of_flows fits flows]
        exact .whole fits (Course.eq_ofList_of_terminatedAt terminated) flows
      · -- A course that goes on may stall or fail next, and cannot come to one result.
        have stalled := settled [.stall] fun ended => absurd ended terminated
        have failed := settled [.failure ""] fun ended => absurd ended terminated
        rw [memorize_of_stops fits flows .stall] at stalled
        rw [memorize_of_stops fits flows .failure, ← stalled] at failed
        cases failed
    · rw [← ended, taken, memorize_of_stops fits flows stops]
      exact .stopped fits begins flows stops
  · obtain ⟨length, announces, tooLong⟩ : ∃ length, announced = some length ∧ limit < length := by
      simpa using fits
    rw [← ended, memorize_of_tooLong announces tooLong]
    exact .refused announces tooLong

/-- A stream that ends comes to what reading it gives. -/
theorem comesTo_streaming : message.ComesTo announced limit timeout (.ofList events)
    ((message.streaming events announced).memorize limit timeout) := by
  refine ⟨events.length, fun rest nothing => ?_⟩
  rw [nothing (Stream'.Seq.terminatedAt_ofList events), Course.begins_ofList, List.append_nil]

theorem Memorized.comesTo (memorized : message.Memorized announced limit timeout course result) :
    message.ComesTo announced limit timeout course result := by
  cases memorized with
  | refused announces tooLong => exact ⟨0, fun _ _ => memorize_of_tooLong announces tooLong⟩
  | whole fits ends flows =>
    rw [ends, ← memorize_of_flows fits flows]
    exact comesTo_streaming
  | @stopped front event fault spent fits begins flows stops =>
    refine ⟨(front ++ [event]).length, fun rest _ => ?_⟩
    rw [begins, List.append_assoc]
    exact memorize_of_stops fits flows stops rest

/-- What is settled stays so, whatever else is known of the course. -/
theorem SettledBy.eq_of_le {few many : Nat} {other : Except BodyFault Unit × Message × Span}
    (early : message.SettledBy announced limit timeout course few result)
    (late : message.SettledBy announced limit timeout course many other) (fewer : few ≤ many) :
    result = other := by
  obtain ⟨more, taken⟩ := Course.take_isPrefix course fewer
  have final := late [] fun _ => rfl
  rw [List.append_nil, ← taken] at final
  rw [← final]
  refine (early more fun ended => ?_).symm
  have nothing : course.take few ++ more = course.take few :=
    taken.trans (Course.take_of_terminatedAt fewer ended)
  exact List.append_right_eq_self.mp nothing

/-- **Reading comes to one result at most.** -/
theorem ComesTo.unique {other : Except BodyFault Unit × Message × Span}
    (one : message.ComesTo announced limit timeout course result)
    (two : message.ComesTo announced limit timeout course other) : result = other := by
  obtain ⟨count, settled⟩ := one
  obtain ⟨more, settledToo⟩ := two
  rcases Nat.le_total count more with fewer | fewer
  · exact settled.eq_of_le settledToo fewer
  · exact (settledToo.eq_of_le settled fewer).symm

/-- **Reading comes to nothing** just if the stream flows for ever. -/
theorem not_comesTo_iff : (∀ result, ¬message.ComesTo announced limit timeout course result) ↔
    (∀ length ∈ announced, length ≤ limit) ∧
      ∀ count, ¬course.TerminatedAt count ∧ Flows limit timeout (course.take count) := by
  constructor
  · intro nothing
    have fits : ∀ length ∈ announced, length ≤ limit := fun length announces =>
      Nat.not_lt.mp fun tooLong => nothing _ (Memorized.refused announces tooLong).comesTo
    refine ⟨fits, fun count => ?_⟩
    have flows : Flows limit timeout (course.take count) := by
      rcases course.flows_or_stops limit timeout count with
        flows | ⟨front, event, rest, fault, spent, _, begins, flows, stops⟩
      · exact flows
      · exact absurd (Memorized.stopped fits begins flows stops).comesTo (nothing _)
    refine ⟨fun terminated => ?_, flows⟩
    have ends := Course.eq_ofList_of_terminatedAt terminated
    exact nothing _ (Memorized.whole fits ends flows).comesTo
  · rintro ⟨fits, forEver⟩ result comesTo
    cases comesTo.memorized with
    | refused announces tooLong => exact absurd (fits _ announces) (Nat.not_le.mpr tooLong)
    | @whole events _ ends _ =>
      exact (forEver events.length).1 (ends ▸ Stream'.Seq.terminatedAt_ofList events)
    | @stopped front event _ _ _ begins flows stops =>
      exact stops.not_flows (begins ▸ (forEver (front ++ [event]).length).2)

/-- **What comes of reading a body into memory**, whatever happens to it and for how long. A live
stream comes to what comes first on its course, and to one result at most, unless it flows for ever;
never are more bytes held than the limit, and where reading stands, it goes on. A body in memory
stays as it is. -/
theorem memorize_course (message : Message) (announced : Option Nat) (limit : Nat) (timeout : Span)
    (course : Course) :
    (∀ result, message.ComesTo announced limit timeout course result ↔
      message.Memorized announced limit timeout course result) ∧
    (∀ result other, message.ComesTo announced limit timeout course result →
      message.ComesTo announced limit timeout course other → result = other) ∧
    ((∀ result, ¬message.ComesTo announced limit timeout course result) ↔
      (∀ length ∈ announced, length ≤ limit) ∧
        ∀ count, ¬course.TerminatedAt count ∧ Flows limit timeout (course.take count)) ∧
    (∀ count reading, Reading.start.along limit timeout (course.take count) = .ok reading →
      reading.held.length ≤ limit ∧ ∀ rest, Stream.drain limit timeout (course.take count ++ rest)
        = Stream.drainFrom limit timeout reading.held reading.spent rest) ∧
    (message.isCloneable = true →
      message.memorize limit timeout = (.ok (), message, Span.zero)) := by
  refine ⟨fun result => ⟨ComesTo.memorized, Memorized.comesTo⟩, fun _ _ => ComesTo.unique,
    not_comesTo_iff, fun count reading stands => ⟨?_, Stream.drain_append stands⟩,
    fun inMemory => memorize_of_isCloneable inMemory limit timeout⟩
  obtain ⟨flows, rfl⟩ := Reading.along_eq_ok_iff.mp stands
  exact flows.fits

end Message

end Switchboard
