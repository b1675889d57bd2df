import Switchboard.Exchange
import Switchboard.Proofs.Message.Memorize
/-!
What follows a redirect.

To another origin a redirect takes along a plug and a request that have shed what tells who is
calling: headers for credentials and cookies, the credentials themselves, and the cookies of the
request. To the same origin, or if the policy is to tell everyone, it takes them along as they are.

* `Plug.redirect?_eq_some_iff` says when a redirect is followed, and with what.
* `Plug.redirectTo_of_crosses` and `Plug.redirectTo_of_not_crosses` say what is taken along.
* `Plug.redirect_alike`: plugs and requests that differ only in who is calling still do after a
  redirect, and after one to another origin they do not differ at all.
-/

namespace Switchboard

variable {σ : Type}

/-- An outcome has a value exactly if it is no error. -/
theorem toOption_eq_some_iff {ε α : Type} {outcome : Except ε α} {value : α} :
    outcome.toOption = some value ↔ outcome = .ok value := by
  cases outcome with
  | ok other => exact ⟨fun same => congrArg Except.ok (Option.some.inj same),
      fun same => congrArg some (Except.ok.inj same)⟩
  | error fault => exact ⟨(nomatch ·), (nomatch ·)⟩

/-- A plug without what tells who is calling. -/
def Plug.shed (plug : Plug σ) : Plug σ :=
  { plug with headers := anonymous plug.headers, credentials := none }

/-- A request without what tells who is calling. -/
def Message.shed (message : Message) : Message :=
  { message with headers := Plug.anonymous message.headers, cookies := [] }

namespace Plug

/-- Plugs that differ only in who is calling have all else in common. -/
theorem shed_eq_iff {one other : Plug σ} : one.shed = other.shed ↔
    one.uri = other.uri ∧ one.timeout = other.timeout ∧
      anonymous one.headers = anonymous other.headers ∧ one.jar = other.jar ∧
      one.before = other.before ∧ one.after = other.after ∧
      one.maxRedirects = other.maxRedirects ∧ one.redirectPolicy = other.redirectPolicy ∧
      one.maxBytes = other.maxBytes := by
  unfold shed
  rw [Plug.mk.injEq]
  simp only [true_and]

/-- Exactly the headers that tell who is calling are left out, whatever the case of their names. -/
theorem anonymous_entries (headers : Headers) :
    (anonymous headers).entries = headers.entries.filter fun header =>
      !(identifying.any fun name => header.isNamed name) := by
  simp only [anonymous, identifying, List.foldl_cons, List.foldl_nil, Headers.erase,
    List.filter_filter, List.any_cons, List.any_nil, Bool.or_false, Bool.not_or]
  congr 1
  funext header
  cases header.isNamed Credentials.headerName <;> cases header.isNamed "Proxy-Authorization" <;>
    cases header.isNamed "Cookie" <;> rfl

/-- Headers without those that tell who is calling have no more of them to leave out. -/
theorem anonymous_anonymous (headers : Headers) :
    anonymous (anonymous headers) = anonymous headers := by
  have entries : (anonymous (anonymous headers)).entries = (anonymous headers).entries := by
    rw [anonymous_entries, anonymous_entries, List.filter_filter]
    simp only [Bool.and_self]
  exact congrArg Headers.mk entries

theorem crosses_iff {plug : Plug σ} {target : Uri} : plug.crosses target = true ↔
    plug.redirectPolicy = .sameOrigin ∧ plug.uri.sameOrigin target = false := by
  unfold crosses
  rw [Bool.and_eq_true, decide_eq_true_iff, Bool.not_eq_true']

/-! ### Following -/

variable {plug next : Plug σ} {replay : Option Message} {response request : Message}

/-- **When a redirect is followed**, and with what. -/
theorem redirect?_eq_some_iff :
    plug.redirect? replay response = some (next, request) ↔
      (response.status.isFollowable ∧ 0 < plug.maxRedirects) ∧ ∃ target copy,
        plug.target? response = some target ∧ replay = some copy ∧
          plug.redirectTo target copy = (next, request) := by
  unfold redirect?
  constructor
  · intro follows
    split at follows
    · rename_i followable
      obtain ⟨target, leads, given⟩ := Option.bind_eq_some_iff.mp follows
      obtain ⟨copy, copied, made⟩ := Option.bind_eq_some_iff.mp given
      exact ⟨followable, target, copy, leads, copied, Option.some.inj made⟩
    · cases follows
  · rintro ⟨followable, target, copy, leads, rfl, made⟩
    rw [if_pos followable, leads, ← made]
    rfl

/-- What is taken along to another origin has shed who is calling. -/
theorem redirectTo_of_crosses {target : Uri} (crosses : plug.crosses target = true)
    (request : Message) : plug.redirectTo target request
      = ({ plug.shed with uri := target, maxRedirects := plug.maxRedirects - 1 }, request.shed) := by
  unfold redirectTo
  rw [if_pos crosses]
  rfl

/-- What is taken along otherwise is as it was. -/
theorem redirectTo_of_not_crosses {target : Uri} (stays : plug.crosses target = false)
    (request : Message) : plug.redirectTo target request
      = ({ plug with uri := target, maxRedirects := plug.maxRedirects - 1 }, request) := by
  unfold redirectTo
  rw [if_neg (by rw [stays]; exact Bool.false_ne_true)]

/-- A response leads to the place that its first location makes of the place of the plug. -/
theorem target?_eq_some_iff {target : Uri} : plug.target? response = some target ↔ ∃ location,
    response.headers.get? "Location" = some location ∧ plug.uri.join location = .ok target := by
  simp only [← toOption_eq_some_iff]
  exact Option.bind_eq_some_iff

/-- The plug after a redirect is for the place that the redirect leads to. -/
theorem uri_of_redirectTo {target : Uri} {copy : Message}
    (made : plug.redirectTo target copy = (next, request)) : next.uri = target := by
  unfold redirectTo at made
  split at made <;> cases made <;> rfl

/-- A plug that follows a redirect may follow one more than the plug that comes after it. -/
theorem maxRedirects_of_redirect (follows : plug.redirect? replay response = some (next, request)) :
    plug.maxRedirects = next.maxRedirects + 1 := by
  obtain ⟨⟨_, some⟩, target, copy, _, _, made⟩ := redirect?_eq_some_iff.mp follows
  have fewer : next.maxRedirects = plug.maxRedirects - 1 := by
    unfold redirectTo at made
    split at made <;> cases made <;> rfl
  omega

/-- A redirect leaves the time, the handlers and the policy of a plug as they are. -/
theorem kept_by_redirect (follows : plug.redirect? replay response = some (next, request)) :
    next.timeout = plug.timeout ∧ next.before = plug.before ∧ next.after = plug.after ∧
      next.redirectPolicy = plug.redirectPolicy := by
  obtain ⟨_, target, copy, _, _, made⟩ := redirect?_eq_some_iff.mp follows
  unfold redirectTo at made
  split at made <;> cases made <;> exact ⟨rfl, rfl, rfl, rfl⟩

/-! ### Who is calling -/

/-- The copy that follows redirects is the request itself. -/
theorem eq_of_replayOf {copy : Message} (copied : Exchange.replayOf plug request = some copy) :
    copy = request := by
  unfold Exchange.replayOf at copied
  split at copied
  · unfold Message.copy at copied
    split at copied <;> cases copied <;> rfl
  · cases copied

/-- There is a copy to follow redirects just for requests that are in memory, if any redirect is
followed. -/
theorem replayOf_eq_some_iff {copy : Message} : Exchange.replayOf plug request = some copy ↔
    0 < plug.maxRedirects ∧ request.isCloneable = true ∧ copy = request := by
  unfold Exchange.replayOf
  by_cases allowed : 0 < plug.maxRedirects
  · rw [if_pos allowed, toOption_eq_some_iff, Message.copy_eq_ok_iff]
    exact ⟨fun copied => ⟨allowed, copied⟩, fun copied => copied.2⟩
  · rw [if_neg allowed]
    exact ⟨(nomatch ·), fun copied => absurd copied.1 allowed⟩

/-- The request that follows a redirect is the one that the hop began with. To another origin it has
shed who is calling. -/
theorem request_of_redirect {copy : Message}
    (follows : plug.redirect? (Exchange.replayOf plug request) response = some (next, copy)) :
    copy = if plug.crosses next.uri then request.shed else request := by
  obtain ⟨_, target, replay, _, copied, made⟩ := redirect?_eq_some_iff.mp follows
  obtain rfl := eq_of_replayOf copied
  rw [uri_of_redirectTo made]
  cases crosses : plug.crosses target with
  | true =>
    rw [redirectTo_of_crosses crosses] at made
    exact (Prod.mk.inj made).2.symm
  | false =>
    rw [redirectTo_of_not_crosses crosses] at made
    exact (Prod.mk.inj made).2.symm

variable {other next' : Plug σ} {request' copy copy' : Message}

theorem crosses_congr (plugs : plug.shed = other.shed) (target : Uri) :
    plug.crosses target = other.crosses target := by
  obtain ⟨uris, _, _, _, _, _, _, policies, _⟩ := shed_eq_iff.mp plugs
  unfold crosses
  rw [uris, policies]

theorem target_congr (plugs : plug.shed = other.shed) (response : Message) :
    plug.target? response = other.target? response := by
  unfold target?
  rw [(shed_eq_iff.mp plugs).1]

/-- **Redirects keep a secret**: plugs and requests that differ only in who is calling differ in no
more after a redirect, and not at all after one to another origin. -/
theorem redirect_alike (plugs : plug.shed = other.shed) (requests : request.shed = request'.shed)
    (follows : plug.redirect? (Exchange.replayOf plug request) response = some (next, copy))
    (follows' : other.redirect? (Exchange.replayOf other request') response
      = some (next', copy')) :
    next.shed = next'.shed ∧ copy.shed = copy'.shed ∧
      (plug.crosses next.uri = true → next = next' ∧ copy = copy') := by
  obtain ⟨_, target, replay, leads, copied, made⟩ := redirect?_eq_some_iff.mp follows
  obtain ⟨_, target', replay', leads', copied', made'⟩ := redirect?_eq_some_iff.mp follows'
  obtain rfl := eq_of_replayOf copied
  obtain rfl := eq_of_replayOf copied'
  rw [target_congr plugs, leads'] at leads
  cases leads
  obtain ⟨_, _, _, _, _, _, redirects, _⟩ := shed_eq_iff.mp plugs
  rw [uri_of_redirectTo made]
  cases crosses : plug.crosses target with
  | true =>
    rw [redirectTo_of_crosses crosses] at made
    rw [redirectTo_of_crosses (crosses_congr plugs target ▸ crosses)] at made'
    rw [plugs, requests, redirects] at made
    obtain ⟨rfl, rfl⟩ := Prod.mk.inj (made.symm.trans made')
    exact ⟨rfl, rfl, fun _ => ⟨rfl, rfl⟩⟩
  | false =>
    rw [redirectTo_of_not_crosses crosses] at made
    rw [redirectTo_of_not_crosses (crosses_congr plugs target ▸ crosses)] at made'
    cases made
    cases made'
    refine ⟨?_, requests, fun isTrue => nomatch isTrue⟩
    show ({ plug.shed with uri := target, maxRedirects := plug.maxRedirects - 1 } : Plug σ)
      = { other.shed with uri := target, maxRedirects := other.maxRedirects - 1 }
    rw [plugs, redirects]

end Plug

end Switchboard
