import Switchboard.Plug.Basic
import Switchboard.Proofs.Cookie.History
import Switchboard.Proofs.Headers.Values
/-!
What a plug adds to a request.

A request keeps its own cookies. Of the cookies that a jar gives for the URI of the plug those are
attached whose names the request does not have, of each name the first one, and the jar gives long
paths first. A header of the plug takes the place of all headers of its name. The authorization is
that of the plug, or else that of the request, or else it is made of the credentials.

* `Plug.Attaches` says which cookies are attached.
* `Plug.authorization` is what becomes of the authorization.
* `Plug.dress_precedence`: what goes before what, for cookies and headers.
-/

namespace Switchboard.Plug

variable {σ : Type}

/-! ### Cookies -/

section Cookies

variable {own given added : List Cookie} {cookie : Cookie}

/-- **Says which cookies are attached** to those that a request has, of those that are given. -/
structure Attaches (own given added : List Cookie) : Prop where
  /-- A cookie is attached if the request has none of its name and it is the first one given. -/
  mem_iff : ∀ cookie, cookie ∈ added ↔ (∀ other ∈ own, other.name ≠ cookie.name) ∧
    given.find? (fun other => other.name == cookie.name) = some cookie
  /-- One of each name. -/
  once : (added.map Cookie.name).Nodup
  /-- In the order in which they are given. -/
  inOrder : added.Sublist given

/-- The first cookie of each name. -/
def firstOfEach : List Cookie → List Cookie
  | [] => []
  | cookie :: rest => cookie :: (firstOfEach rest).filter fun other => other.name != cookie.name

/-- Says whether the name of a cookie is none of those that a request has. -/
def isMissing (own : List Cookie) (cookie : Cookie) : Bool :=
  own.all fun other => other.name != cookie.name

theorem firstOfEach_sublist (given : List Cookie) : (firstOfEach given).Sublist given := by
  induction given with
  | nil => exact List.Sublist.slnil
  | cons cookie rest ih => exact (List.filter_sublist.trans ih).cons_cons cookie

theorem nodup_firstOfEach (given : List Cookie) : ((firstOfEach given).map Cookie.name).Nodup := by
  induction given with
  | nil => exact List.nodup_nil
  | cons cookie rest ih =>
    refine List.nodup_cons.mpr ⟨fun member => ?_, ih.sublist (List.filter_sublist.map _)⟩
    obtain ⟨other, isOther, same⟩ := List.mem_map.mp member
    have differs := (List.mem_filter.mp isOther).2
    rw [same] at differs
    simp at differs

theorem mem_firstOfEach_iff : cookie ∈ firstOfEach given ↔
    given.find? (fun other => other.name == cookie.name) = some cookie := by
  induction given with
  | nil => simp [firstOfEach]
  | cons first rest ih =>
    rw [firstOfEach, List.mem_cons, List.mem_filter, ih]
    by_cases same : first.name = cookie.name
    · rw [List.find?_cons_of_pos (by simpa using same)]
      simp [same, eq_comm]
    · rw [List.find?_cons_of_neg (by simpa using same)]
      have notFirst : cookie ≠ first := fun isFirst => same (congrArg Cookie.name isFirst.symm)
      simp [notFirst, Ne.symm same]

theorem isMissing_iff : isMissing own cookie = true ↔ ∀ other ∈ own, other.name ≠ cookie.name := by
  simp [isMissing]

theorem attaches_firstOfEach (own given : List Cookie) :
    Attaches own given ((firstOfEach given).filter (isMissing own)) where
  mem_iff cookie := by rw [List.mem_filter, mem_firstOfEach_iff, isMissing_iff, and_comm]
  once := (nodup_firstOfEach given).sublist (List.filter_sublist.map _)
  inOrder := List.filter_sublist.trans (firstOfEach_sublist given)

/-- **Cookies that are added one after the other** are the first of each name that is missing. -/
theorem cookies_foldl_addMissing (given : List Cookie) (request : Message) :
    (given.foldl addMissing request).cookies
      = request.cookies ++ (firstOfEach given).filter (isMissing request.cookies) := by
  -- The request is general, since each cookie that is added makes its name one that is there.
  induction given generalizing request with
  | nil => exact (List.append_nil _).symm
  | cons cookie rest ih =>
    rw [List.foldl_cons, ih, firstOfEach]
    by_cases there : request.cookies.any (fun other => other.name == cookie.name) = true
    · have notMissing : ¬ isMissing request.cookies cookie = true := by
        obtain ⟨other, member, same⟩ := List.any_eq_true.mp there
        exact fun missing => isMissing_iff.mp missing other member (beq_iff_eq.mp same)
      have differs : ∀ other, (isMissing request.cookies other && other.name != cookie.name)
          = isMissing request.cookies other := by
        intro other
        rw [Bool.and_eq_left_iff_imp, bne_iff_ne]
        intro missing same
        refine notMissing (isMissing_iff.mpr fun early member => ?_)
        exact same ▸ isMissing_iff.mp missing early member
      rw [addMissing, if_pos there, List.filter_cons_of_neg notMissing, List.filter_filter]
      simp only [differs]
    · have missing : isMissing request.cookies cookie = true := by
        simpa [isMissing_iff] using there
      have alsoAdded : ∀ other, isMissing (request.cookies ++ [cookie]) other
          = (isMissing request.cookies other && other.name != cookie.name) := by
        intro other
        simp [isMissing, bne_comm]
      rw [addMissing, if_neg there, List.filter_cons_of_pos missing, List.filter_filter]
      simp only [Message.addCookie, funext alsoAdded, List.append_assoc, List.singleton_append]

/-- An attached cookie has the longest path of those of its name, if long paths are given first. -/
theorem Attaches.longest (attaches : Attaches own given added)
    (long : given.Pairwise fun one other => other.path.utf8ByteSize ≤ one.path.utf8ByteSize)
    (member : cookie ∈ added) {other : Cookie} (isGiven : other ∈ given)
    (same : other.name = cookie.name) : other.path.utf8ByteSize ≤ cookie.path.utf8ByteSize := by
  obtain ⟨-, front, back, rfl, none⟩ :=
    List.find?_eq_some_iff_append.mp ((attaches.mem_iff cookie).mp member).2
  rcases List.mem_append.mp isGiven with early | late
  · exact absurd same (by simpa using none other early)
  · rcases List.mem_cons.mp late with rfl | later
    · exact Nat.le_refl _
    · exact (List.pairwise_cons.mp (List.pairwise_append.mp long).2.1).1 other later

end Cookies

/-! ### Headers -/

/-- The values of the authorization after a plug has dressed a request. -/
def authorization (plug : Plug σ) (request : Message) : List String :=
  if plug.headers.contains Credentials.headerName then
    plug.headers.getAll Credentials.headerName
  else if request.headers.contains Credentials.headerName then
    request.headers.getAll Credentials.headerName
  else (plug.credentials.map Credentials.header).toList

section Headers

variable {credentials : Option Credentials} {request : Message}

theorem foldl_addMissing_eq (given : List Cookie) (request : Message) :
    given.foldl addMissing request
      = { request with cookies := (given.foldl addMissing request).cookies } := by
  induction given generalizing request with
  | nil => rfl
  | cons cookie rest ih =>
    have step : addMissing request cookie
        = { request with cookies := (addMissing request cookie).cookies } := by
      unfold addMissing
      split <;> rfl
    rw [List.foldl_cons, ih, step]

theorem authorize_eq (credentials : Option Credentials) (request : Message) :
    authorize credentials request
      = { request with headers := (authorize credentials request).headers } := by
  unfold authorize
  split
  · split <;> rfl
  · rfl

theorem getAll_authorize_of_differs {name : String}
    (differs : Text.sameName Credentials.headerName name = false) :
    (authorize credentials request).headers.getAll name = request.headers.getAll name := by
  unfold authorize
  split
  · split
    · rfl
    · exact Headers.getAll_insert_of_differs differs _
  · rfl

theorem getAll_authorize : (authorize credentials request).headers.getAll Credentials.headerName
    = if request.headers.contains Credentials.headerName then
        request.headers.getAll Credentials.headerName
      else (credentials.map Credentials.header).toList := by
  unfold authorize
  split
  · split
    · rfl
    · exact Headers.getAll_insert (Text.sameName_refl _) _
  · split
    · rfl
    · rename_i absent
      exact Headers.contains_eq_false_iff.mp (Bool.eq_false_iff.mpr absent)

end Headers

/-! ### Requests -/

theorem dress_eq (plug : Plug σ) (given : List Cookie) (request : Message) :
    plug.dress given request = authorize plug.credentials { request with
      cookies := request.cookies ++ (firstOfEach given).filter (isMissing request.cookies)
      headers := request.headers.merge plug.headers } := by
  unfold dress
  rw [foldl_addMissing_eq, cookies_foldl_addMissing]

/-- **What goes before what when a plug dresses a request** with what a jar gives for its URI. Only
cookies and headers change. -/
theorem dress_precedence (plug : Plug σ) (jar : Jar) (request : Message) (now : Int) :
    let given := (jar.fetch plug.uri now).1
    let dressed := plug.dress given request
    (∃ added, dressed.cookies = request.cookies ++ added ∧
      Attaches request.cookies given added ∧
      ∀ cookie ∈ added, ∀ other ∈ given, other.name = cookie.name →
        other.path.utf8ByteSize ≤ cookie.path.utf8ByteSize) ∧
    (∀ name, plug.headers.contains name = true →
      dressed.headers.getAll name = plug.headers.getAll name) ∧
    (∀ name, plug.headers.contains name = false →
      Text.sameName Credentials.headerName name = false →
      dressed.headers.getAll name = request.headers.getAll name) ∧
    dressed.headers.getAll Credentials.headerName = plug.authorization request ∧
    dressed.status = request.status ∧ dressed.body = request.body := by
  intro given dressed
  have attaches := attaches_firstOfEach request.cookies given
  have isDressed : dressed = _ := plug.dress_eq given request
  rw [isDressed]
  refine ⟨⟨_, ?_, attaches, ?_⟩, ?_, ?_, ?_, ?_⟩
  · rw [authorize_eq]
  · intro cookie member other isGiven same
    exact attaches.longest (Jar.pairwise_fetch jar plug.uri now) member isGiven same
  · intro name named
    by_cases same : Text.sameName Credentials.headerName name = true
    · have there : (request.headers.merge plug.headers).contains Credentials.headerName = true := by
        rw [Headers.contains_merge, Headers.contains_congr same, named, Bool.true_or]
      rw [← Headers.getAll_congr same, getAll_authorize, if_pos there, Headers.getAll_merge,
        Headers.contains_congr same, if_pos named, Headers.getAll_congr same]
    · rw [getAll_authorize_of_differs (Bool.eq_false_iff.mpr same), Headers.getAll_merge,
        if_pos named]
  · intro name unnamed differs
    rw [getAll_authorize_of_differs differs, Headers.getAll_merge, unnamed,
      if_neg Bool.false_ne_true]
  · rw [getAll_authorize, authorization, Headers.contains_merge, Headers.getAll_merge]
    by_cases ofPlug : plug.headers.contains Credentials.headerName = true
    · rw [ofPlug, Bool.true_or, if_pos rfl, if_pos rfl, if_pos rfl]
    · rw [Bool.eq_false_iff.mpr ofPlug, Bool.false_or, if_neg Bool.false_ne_true,
        if_neg Bool.false_ne_true]
  · rw [authorize_eq]
    exact ⟨rfl, rfl⟩

end Switchboard.Plug
