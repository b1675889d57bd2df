import Mathlib.Data.Option.Basic
import Mathlib.Tactic.SplitIfs
import Switchboard.Cookie.SetCookie
import Switchboard.Proofs.Text.Cuts
/-!
The attributes of a header field that sets a cookie.

Of several attributes that say the same thing the last one counts. An attribute that nobody knows is
passed over, and so are a blank domain and a path that does not begin with a slash. A date or an age
that cannot be read is not passed over: it takes away what an earlier attribute said.

* `Cookie.foldl_add`: the last attribute counts.
* `Cookie.Idle` says which attributes have nothing to say.
* `Cookie.ofSetCookie?_append_idle`: what such an attribute does to a cookie.
-/

namespace Switchboard.Cookie

/-- The name of an attribute in small letters, and its value. -/
def attributeParts (text : String) : String × String :=
  let (key, value) := (Text.splitOnce '=' text).getD (text, "")
  (Text.lower (Text.trim key), Text.trim value)

/-- What the attributes of a field say. -/
def attributesOf (field : String) : Attributes :=
  (Text.split ';' field).tail.foldl Attributes.add Attributes.unset

/-- The pair of name and value of a field. -/
def pairPart (field : String) : String := (Text.split ';' field).head?.getD ""

/-! ### Fields -/

section Fields

variable {field text : String} {source : Uri} {now : Int} {cookie : Cookie}

theorem split_ne_nil (c : Char) (text : String) : Text.split c text ≠ [] := by
  rw [Text.split, Ne, List.map_eq_nil_iff]
  exact Text.splitOn_ne_nil c text.toList

/-- What is read of a field. -/
theorem ofSetCookie?_eq_some_iff : ofSetCookie? field source now = some cookie ↔
    ∃ name value scope, Text.splitOnce '=' (pairPart field) = some (name, value) ∧
      Text.trim name ≠ "" ∧ (attributesOf field).scope? source = some scope ∧
      { name := Text.trim name, value := Text.stripBoth '"' (Text.trim value), scope
        expires := (attributesOf field).ending now, secure := (attributesOf field).secure
        httpOnly := (attributesOf field).httpOnly } = cookie := by
  obtain ⟨pair, texts, pieces⟩ := List.exists_cons_of_ne_nil (split_ne_nil ';' field)
  simp only [ofSetCookie?, pairPart, attributesOf, pieces, List.head?_cons, Option.getD_some,
    List.tail_cons]
  constructor
  · intro read
    obtain ⟨⟨name, value⟩, cut, rest⟩ := Option.bind_eq_some_iff.mp read
    obtain ⟨_, named, rest⟩ := Option.bind_eq_some_iff.mp rest
    obtain ⟨scope, asked, made⟩ := Option.bind_eq_some_iff.mp rest
    exact ⟨name, value, scope, cut, (Option.guard_eq_some' _).mp named, asked, Option.some.inj made⟩
  · rintro ⟨name, value, scope, cut, named, asked, rfl⟩
    simp [cut, named, asked, guard]

theorem split_append (free : ';' ∉ text.toList) (field : String) :
    Text.split ';' (field ++ ";" ++ text) = Text.split ';' field ++ [text] := by
  have isText : (field ++ ";" ++ text).toList = field.toList ++ ';' :: text.toList := by simp
  unfold Text.split
  rw [isText, Text.splitOn_append_sep, Text.splitOn_of_not_mem free, List.map_append,
    List.map_singleton, String.ofList_toList]

/-- One more attribute at the end of a field. -/
theorem attributesOf_append (free : ';' ∉ text.toList) (field : String) :
    attributesOf (field ++ ";" ++ text) = (attributesOf field).add text := by
  rw [attributesOf, split_append free, List.tail_append_of_ne_nil (split_ne_nil ';' field),
    List.foldl_append, List.foldl_cons, List.foldl_nil, attributesOf]

theorem pairPart_append (free : ';' ∉ text.toList) (field : String) :
    pairPart (field ++ ";" ++ text) = pairPart field := by
  obtain ⟨pair, texts, pieces⟩ := List.exists_cons_of_ne_nil (split_ne_nil ';' field)
  rw [pairPart, split_append free, pairPart, pieces]
  rfl

end Fields

/-! ### One attribute -/

section Adding

variable {attributes : Attributes} {text key value : String}

theorem add_eq (parts : attributeParts text = (key, value)) : attributes.add text =
    if key = "domain" ∧ value ≠ "" then
      { attributes with
        domain := some (Text.lower (String.ofList (value.toList.dropWhile (· == '.')))) }
    else if key = "path" ∧ value.toList.head? = some '/' then { attributes with path := some value }
    else if key = "expires" then { attributes with expires := Calendar.read? value }
    else if key = "max-age" then { attributes with maxAge := (Number.readInt64 value).toOption }
    else if key = "secure" then { attributes with secure := true }
    else if key = "httponly" then { attributes with httpOnly := true }
    else attributes := by
  obtain ⟨rfl, rfl⟩ := Prod.mk.inj parts
  rfl

/-- What an attribute says of the date, if it says anything. -/
def saysDate? (text : String) : Option (Option Int) :=
  if (attributeParts text).1 = "expires" then some (Calendar.read? (attributeParts text).2)
  else none

/-- What an attribute says of the age, if it says anything. -/
def saysAge? (text : String) : Option (Option Int) :=
  if (attributeParts text).1 = "max-age" then
    some (Number.readInt64 (attributeParts text).2).toOption
  else none

/-- What an attribute of a name and a value changes of date and age, and what it leaves. -/
theorem expires_add (attributes : Attributes) (text : String) :
    (attributes.add text).expires = (saysDate? text).getD attributes.expires := by
  obtain ⟨key, value, parts⟩ : ∃ key value, attributeParts text = (key, value) := ⟨_, _, rfl⟩
  rw [add_eq parts, saysDate?, parts]
  split_ifs <;> simp_all

theorem maxAge_add (attributes : Attributes) (text : String) :
    (attributes.add text).maxAge = (saysAge? text).getD attributes.maxAge := by
  obtain ⟨key, value, parts⟩ : ∃ key value, attributeParts text = (key, value) := ⟨_, _, rfl⟩
  rw [add_eq parts, saysAge?, parts]
  split_ifs <;> simp_all

end Adding

/-! ### Attributes one after the other -/

/-- **Of the attributes that say something the last one counts.** -/
theorem foldl_add {α : Type} {get : Attributes → α} {tells : String → Option α}
    (step : ∀ attributes text, get (attributes.add text) = (tells text).getD (get attributes))
    (texts : List String) (attributes : Attributes) :
    get (texts.foldl Attributes.add attributes)
      = ((texts.filterMap tells).getLast?).getD (get attributes) := by
  -- The attributes so far are general, since each text may say something else.
  induction texts generalizing attributes with
  | nil => rfl
  | cons text rest ih =>
    rw [List.foldl_cons, ih, step]
    cases said : tells text with
    | none => rw [List.filterMap_cons_none said, Option.getD_none]
    | some word =>
      rw [List.filterMap_cons_some said, List.getLast?_cons]
      cases (rest.filterMap tells).getLast? <;> rfl

/-- What the last attribute of a field that is about the date says, if it is a date. -/
def lastDate? (field : String) : Option Int :=
  ((Text.split ';' field).tail.filterMap saysDate?).getLast?.join

/-- What the last attribute of a field that is about the age says, if it is a number. -/
def lastAge? (field : String) : Option Int :=
  ((Text.split ';' field).tail.filterMap saysAge?).getLast?.join

theorem expires_attributesOf (field : String) : (attributesOf field).expires = lastDate? field := by
  rw [attributesOf, foldl_add expires_add, lastDate?]
  cases ((Text.split ';' field).tail.filterMap saysDate?).getLast? <;> rfl

theorem maxAge_attributesOf (field : String) : (attributesOf field).maxAge = lastAge? field := by
  rw [attributesOf, foldl_add maxAge_add, lastAge?]
  cases ((Text.split ';' field).tail.filterMap saysAge?).getLast? <;> rfl

/-- The end of a cookie that is to be kept for some time. -/
def ageEnding (seconds now : Int) : Int := if seconds ≤ 0 then 0 else now + min seconds maxAgeCeiling

theorem ending_eq (attributes : Attributes) (now : Int) : attributes.ending now
    = (attributes.maxAge.map fun seconds => ageEnding seconds now).or attributes.expires := by
  rw [Attributes.ending]
  cases attributes.maxAge <;> rfl

/-! ### Attributes that have nothing to say -/

/-- The names of attributes that say something. -/
def attributeNames : List String := ["domain", "path", "expires", "max-age", "secure", "httponly"]

/-- **Says that an attribute of a name and a value has nothing to say**: it is unknown or
malformed. -/
inductive Idle : String → String → Prop where
  | unknown {key : String} (value : String) : key ∉ attributeNames → Idle key value
  | domain : Idle "domain" ""
  | path {value : String} : value.toList.head? ≠ some '/' → Idle "path" value
  | date {value : String} : Calendar.read? value = none → Idle "expires" value
  | age {value : String} : (Number.readInt64 value).toOption = none → Idle "max-age" value

/-- **Says that an attribute takes back what a field said** of the end of a cookie: it is a date that
cannot be read behind one that can, and no age comes before dates, or it is an age that cannot be
read behind one that can, and the field has no date or another one. -/
inductive TakesBack (field text : String) (now : Int) : Prop where
  | date : (attributeParts text).1 = "expires" → lastAge? field = none →
      lastDate? field ≠ none → TakesBack field text now
  | age {seconds : Int} : (attributeParts text).1 = "max-age" → lastAge? field = some seconds →
      lastDate? field ≠ some (ageEnding seconds now) → TakesBack field text now

section Idle

variable {field text key value : String} {source : Uri} {now : Int} {cookie : Cookie}

/-- An attribute that has nothing to say leaves everything but date and age. -/
theorem add_of_idle (idle : Idle (attributeParts text).1 (attributeParts text).2)
    (attributes : Attributes) : attributes.add text = { attributes with
      expires := if (attributeParts text).1 = "expires" then none else attributes.expires
      maxAge := if (attributeParts text).1 = "max-age" then none else attributes.maxAge } := by
  obtain ⟨key, value, parts⟩ : ∃ key value, attributeParts text = (key, value) := ⟨_, _, rfl⟩
  rw [add_eq parts, parts]
  rw [parts] at idle
  cases idle with
  | unknown value unknown => simp_all [attributeNames]
  | domain => simp
  | path noSlash => simp [noSlash]
  | date noDate => simp [noDate]
  | age noAge => simp [noAge]

theorem scope?_add_of_idle (idle : Idle (attributeParts text).1 (attributeParts text).2)
    (attributes : Attributes) (source : Uri) :
    (attributes.add text).scope? source = attributes.scope? source := by
  rw [add_of_idle idle, Attributes.scope?, Attributes.scope?]

theorem takesBack_iff : TakesBack field text now ↔
    ((attributeParts text).1 = "expires" ∧ lastAge? field = none ∧ lastDate? field ≠ none) ∨
    ((attributeParts text).1 = "max-age" ∧ ∃ seconds, lastAge? field = some seconds ∧
      lastDate? field ≠ some (ageEnding seconds now)) := by
  constructor
  · rintro (⟨isDate, noAge, dated⟩ | ⟨isAge, aged, differs⟩)
    · exact Or.inl ⟨isDate, noAge, dated⟩
    · exact Or.inr ⟨isAge, _, aged, differs⟩
  · rintro (⟨isDate, noAge, dated⟩ | ⟨isAge, seconds, aged, differs⟩)
    · exact .date isDate noAge dated
    · exact .age isAge aged differs

/-- The end of a cookie is another one just if an attribute takes back what the field said. -/
theorem ending_add_of_idle_iff (idle : Idle (attributeParts text).1 (attributeParts text).2) :
    ((attributesOf field).add text).ending now = (attributesOf field).ending now
      ↔ ¬ TakesBack field text now := by
  rw [ending_eq, ending_eq, add_of_idle idle, takesBack_iff, expires_attributesOf,
    maxAge_attributesOf]
  generalize (attributeParts text).1 = key
  by_cases isDate : key = "expires"
  · cases lastAge? field <;> simp [isDate, eq_comm]
  · by_cases isAge : key = "max-age"
    · cases lastAge? field <;> simp [isAge]
    · simp [isDate, isAge]

/-- **What an attribute that has nothing to say does to a cookie**: it changes the end of it if it
takes back what the field said, and otherwise nothing. -/
theorem ofSetCookie?_append_idle (read : ofSetCookie? field source now = some cookie)
    (free : ';' ∉ text.toList) (idle : Idle (attributeParts text).1 (attributeParts text).2) :
    ∃ moment, ofSetCookie? (field ++ ";" ++ text) source now
        = some { cookie with expires := moment } ∧
      (moment = cookie.expires ↔ ¬ TakesBack field text now) := by
  obtain ⟨name, value, scope, cut, named, asked, rfl⟩ := ofSetCookie?_eq_some_iff.mp read
  refine ⟨((attributesOf field).add text).ending now, ?_, ending_add_of_idle_iff idle⟩
  refine ofSetCookie?_eq_some_iff.mpr ⟨name, value, scope, ?_, named, ?_, ?_⟩
  · rw [pairPart_append free, cut]
  · rw [attributesOf_append free, scope?_add_of_idle idle, asked]
  · rw [attributesOf_append free, add_of_idle idle]

end Idle

/-! ### Attributes that cannot be read -/

/-- A host and its root, from where cookies are sent. -/
def stall : Uri :=
  { scheme := "http", dotted := false, path := .segments [""], query := none, fragment := none
    authority := some { username := "", password := "", host := "stall", port := none } }

theorem idle_never : Idle (attributeParts " Expires=never").1 (attributeParts " Expires=never").2 :=
  .date (by decide +kernel)

/-- A date that cannot be read does nothing to a cookie that has an age. -/
theorem never_is_passed_over : ∃ cookie,
    ofSetCookie? "sid=1; Max-Age=60" stall 0 = some cookie ∧ ';' ∉ " Expires=never".toList ∧
    Idle (attributeParts " Expires=never").1 (attributeParts " Expires=never").2 ∧
    ofSetCookie? ("sid=1; Max-Age=60" ++ ";" ++ " Expires=never") stall 0 = some cookie := by
  have read : ofSetCookie? "sid=1; Max-Age=60" stall 0
      = some { ofPair "sid" "1" with expires := some 60 } := by decide +kernel
  have free : ';' ∉ " Expires=never".toList := by decide
  obtain ⟨moment, readToo, kept⟩ := ofSetCookie?_append_idle read free idle_never
  have keeps : ¬ TakesBack "sid=1; Max-Age=60" " Expires=never" 0 := by
    rw [takesBack_iff]
    decide +kernel
  refine ⟨_, read, free, idle_never, readToo.trans ?_⟩
  rw [kept.mpr keeps]

/-- **A date that cannot be read takes back the date before it**, and an age the age before it: in
both cases the cookie has no end any more. -/
theorem never_takes_back :
    Idle (attributeParts " Expires=never").1 (attributeParts " Expires=never").2 ∧
    Idle (attributeParts " Max-Age=ever").1 (attributeParts " Max-Age=ever").2 ∧
    ofSetCookie? "sid=1; Expires=Wed, 21 Oct 2015 07:28:00 GMT" stall 0
      = some { ofPair "sid" "1" with expires := some 1445412480 } ∧
    ofSetCookie? "sid=1; Expires=Wed, 21 Oct 2015 07:28:00 GMT; Expires=never" stall 0
      = some (ofPair "sid" "1") ∧
    ofSetCookie? "sid=1; Max-Age=60" stall 0
      = some { ofPair "sid" "1" with expires := some 60 } ∧
    ofSetCookie? "sid=1; Max-Age=60; Max-Age=ever" stall 0 = some (ofPair "sid" "1") := by
  refine ⟨idle_never, .age (by decide +kernel), ?_⟩
  decide +kernel

end Switchboard.Cookie
