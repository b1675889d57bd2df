import Switchboard.Endpoint.Wire
import Switchboard.Proofs.Cookie.Pairs
import Switchboard.Proofs.Headers.Values
/-!
The cookies of a request on the other side of the wire.

A request has cookies of its own and cookies that are written in its headers. Over the wire both go
in one header, the written ones first. So whoever reads the request there finds the written cookie
of a name, where whoever reads it here finds the request's own.

* `Wire.arrived` is a request on the other side.
* `Wire.writtenCookies_arrived`: which cookies it has, in which order.
* `Wire.cookie?_arrived_iff`: it has the same cookie of a name just if the name is not disputed.
-/

namespace Switchboard.Wire

open Message

/-- A request as it is on the other side of the wire, but for the body. -/
def arrived (request : Message) : Message :=
  { request with headers := ⟨headersOf request⟩, cookies := [] }

/-- A cookie of which nothing is left but its name and its value. -/
def bare (cookie : Cookie) : Cookie := Cookie.ofPair cookie.name cookie.value

/-- The first cookie of a name. -/
def firstNamed (name : String) (cookies : List Cookie) : Option Cookie :=
  cookies.find? fun cookie => cookie.name == name

/-- **Says that a name is not disputed**: if a request has a cookie of its own and a written one of
this name, of each the first one, they have the same value. -/
def Undisputed (request : Message) (name : String) : Prop :=
  ∀ own ∈ firstNamed name request.cookies, ∀ written ∈ firstNamed name request.writtenCookies,
    written.value = own.value

instance (request : Message) (name : String) : Decidable (Undisputed request name) :=
  inferInstanceAs (Decidable (∀ own ∈ firstNamed name request.cookies,
    ∀ written ∈ firstNamed name request.writtenCookies, written.value = own.value))

variable {request : Message}

/-! ### What arrives -/

/-- Of all headers for cookies one goes over the wire, if there are cookies. -/
theorem getAll_arrived (request : Message) :
    (arrived request).headers.getAll cookieHeader = (cookieLine? request).toList := by
  have carried : (request.headers.entries.filter isCarried).filter (Header.isNamed cookieHeader)
      = [] := by
    rw [List.filter_filter, List.filter_eq_nil_iff]
    intro header _ both
    rw [Bool.and_eq_true, isCarried] at both
    rw [both.1, Bool.not_true, Bool.and_false] at both
    exact absurd both.2 Bool.false_ne_true
  have named (line : String) : Header.isNamed cookieHeader ⟨cookieHeader, line⟩ = true :=
    Text.sameName_refl _
  rw [Headers.getAll, arrived, headersOf, List.filter_append, carried]
  cases cookieLine? request with
  | none => rfl
  | some line => simp [named]

/-- Lines that are blank hold no cookies. -/
theorem flatMap_pairsOf_writtenLines (request : Message) :
    (writtenLines request).flatMap pairsOf = request.writtenCookies := by
  rw [writtenLines, writtenCookies_eq]
  induction request.headers.getAll cookieHeader with
  | nil => rfl
  | cons line rest ih =>
    rw [List.map_cons, List.flatMap_cons, ← ih, ← pairsOf_trim line]
    by_cases blank : Text.trim line = ""
    · rw [List.filter_cons_of_neg (by simp [blank]), blank]
      rfl
    · rw [List.filter_cons_of_pos (by simp [blank]), List.flatMap_cons]

/-- What the one header for cookies holds: what is written in the headers, and then the cookies of
the request itself. -/
theorem pairsOf_cookieLine? (neat : ∀ cookie ∈ request.cookies, cookie.Neat) :
    (cookieLine? request).toList.flatMap pairsOf
      = request.writtenCookies ++ request.cookies.map bare := by
  have own : (if request.cookies = [] then []
      else [Cookie.requestText request.cookies]).flatMap pairsOf = request.cookies.map bare := by
    by_cases none : request.cookies = []
    · rw [if_pos none, none]
      rfl
    · rw [if_neg none, List.flatMap_singleton, pairsOf_requestText neat]
      rfl
  have joined : ∀ lines : List String,
      (if lines = [] then none else some (Text.join "; " lines)).toList.flatMap pairsOf
        = lines.flatMap pairsOf := by
    intro lines
    by_cases none : lines = []
    · rw [if_pos none, none]
      rfl
    · rw [if_neg none, Option.toList_some, List.flatMap_singleton, pairsOf_join]
  rw [cookieLine?, joined, List.flatMap_append, flatMap_pairsOf_writtenLines, own]

/-- **The cookies that arrive**: the written ones, and behind them the request's own. -/
theorem writtenCookies_arrived (neat : ∀ cookie ∈ request.cookies, cookie.Neat) :
    (arrived request).writtenCookies = request.writtenCookies ++ request.cookies.map bare := by
  rw [writtenCookies_eq, getAll_arrived, pairsOf_cookieLine? neat]

/-! ### What is found -/

theorem firstNamed_map_bare (name : String) (cookies : List Cookie) :
    firstNamed name (cookies.map bare) = (firstNamed name cookies).map bare := by
  rw [firstNamed, List.find?_map]
  rfl

/-- Over there the written cookie of a name is found, and else the request's own. -/
theorem cookie?_arrived (neat : ∀ cookie ∈ request.cookies, cookie.Neat) (name : String) :
    (arrived request).cookie? name = (firstNamed name request.writtenCookies).or
      ((firstNamed name request.cookies).map bare) := by
  have found : (arrived request).cookie? name
      = firstNamed name (arrived request).writtenCookies := rfl
  rw [found, writtenCookies_arrived neat, ← firstNamed_map_bare]
  exact List.find?_append

/-- Here the request's own cookie of a name is found, and else the written one. -/
theorem cookie?_eq (request : Message) (name : String) : request.cookie? name
    = (firstNamed name request.cookies).or (firstNamed name request.writtenCookies) := by
  unfold cookie? firstNamed
  cases request.cookies.find? fun cookie => cookie.name == name <;> rfl

/-- **A request has the same cookies on both sides of the wire** just for the names that are not
disputed. Its own cookies arrive in the one header for cookies, behind those that are written in its
headers, and of a disputed name it is the written cookie that is found over there. -/
theorem cookie?_arrived_iff (request : Message) (neat : ∀ cookie ∈ request.cookies, cookie.Neat) :
    (∀ verb uri sent, Wire.request verb uri request = .ok sent →
      sent.headers = (arrived request).headers.entries) ∧
    (arrived request).headers.getAll cookieHeader = (cookieLine? request).toList ∧
    (arrived request).writtenCookies = request.writtenCookies ++ request.cookies.map bare ∧
    ∀ name, ((arrived request).cookie? name).map Cookie.value
        = (request.cookie? name).map Cookie.value ↔ Undisputed request name := by
  refine ⟨?_, getAll_arrived request, writtenCookies_arrived neat, fun name => ?_⟩
  · intro verb uri sent isSent
    rw [Wire.request] at isSent
    cases body : bodyOf request with
    | error fault => simp [body, Except.map] at isSent
    | ok stream =>
      rw [body] at isSent
      rw [← Except.ok.inj isSent]
      rfl
  · rw [cookie?_arrived neat, cookie?_eq, Undisputed]
    cases firstNamed name request.cookies with
    | none => simp
    | some own =>
      cases firstNamed name request.writtenCookies with
      | none => simp [bare, Cookie.ofPair]
      | some written => simp

/-! ### A disputed name -/

/-- A request with a cookie of its own and one that is written in a header. -/
def visit (own : Cookie) (line : String) : Message :=
  { Message.ok with cookies := [own], headers := ⟨[⟨cookieHeader, line⟩]⟩ }

theorem neat_sid : (Cookie.ofPair "sid" "2").Neat where
  named := by decide
  nameTrimmed := by decide
  nameFree := by decide
  valueTrimmed := by decide
  valueFree := by decide

/-- A visit in which both cookies say the same is the same on both sides. -/
theorem visit_arrives : (∀ cookie ∈ (visit (Cookie.ofPair "sid" "2") "sid=2").cookies, cookie.Neat) ∧
    ((arrived (visit (Cookie.ofPair "sid" "2") "sid=2")).cookie? "sid").map Cookie.value
      = ((visit (Cookie.ofPair "sid" "2") "sid=2").cookie? "sid").map Cookie.value := by
  have neat : ∀ cookie ∈ (visit (Cookie.ofPair "sid" "2") "sid=2").cookies, cookie.Neat := by
    intro cookie member
    rw [List.mem_singleton.mp member]
    exact neat_sid
  refine ⟨neat, ((cookie?_arrived_iff _ neat).2.2.2 "sid").mpr ?_⟩
  decide +kernel

/-- **A visit in which the cookies differ** shows one of them here and the other one over there. -/
theorem visit_is_disputed :
    (∀ cookie ∈ (visit (Cookie.ofPair "sid" "2") "sid=1").cookies, cookie.Neat) ∧
    cookieLine? (visit (Cookie.ofPair "sid" "2") "sid=1") = some "sid=1; sid=2" ∧
    ((visit (Cookie.ofPair "sid" "2") "sid=1").cookie? "sid").map Cookie.value = some "2" ∧
    ((arrived (visit (Cookie.ofPair "sid" "2") "sid=1")).cookie? "sid").map Cookie.value
      = some "1" := by
  refine ⟨fun cookie member => ?_, by decide +kernel⟩
  rw [List.mem_singleton.mp member]
  exact neat_sid

end Switchboard.Wire
