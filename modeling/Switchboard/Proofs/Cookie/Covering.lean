import Switchboard.Cookie.Basic
/-!
Which URIs the scope of a cookie covers.

The host of a scope covers itself and what stands before it and a point, up to the case of ASCII
letters. The path of a scope covers itself and what goes on behind it where a segment ends. The root
covers every path, those that do not begin with a slash among them.

* `Cookie.hostCovers_iff` and `Cookie.pathCovers_iff` say so of hosts and paths.
* `Cookie.matchesUri_iff` says which cookies are sent to a URI.
-/

namespace Switchboard.Cookie

/-- A host is a domain or one below it. -/
def HostWithin (host domain : String) : Prop :=
  Text.lower host = Text.lower domain ∨
    ∃ front, Text.lower host = front ++ "." ++ Text.lower domain

/-- A path is another one or goes on where a segment of it ends. -/
def PathWithin (path scope : String) : Prop :=
  path = scope ∨ ∃ rest, path = scope ++ rest ∧
    ((∃ front, scope = front ++ "/") ∨ ∃ back, rest = "/" ++ back)

/-- The host of a URI is that of a scope or below it, or neither has a host. -/
def HostsAgree (scope uri : Uri) : Prop :=
  (scope.host? = none ∧ uri.host? = none) ∨
    ∃ domain host, scope.host? = some domain ∧ uri.host? = some host ∧ HostWithin host domain

/-! ### Starts and ends of texts -/

theorem suffix_iff {tail text : String} :
    tail.toList <:+ text.toList ↔ ∃ front, text = front ++ tail := by
  constructor
  · rintro ⟨front, same⟩
    refine ⟨String.ofList front, String.toList_inj.mp ?_⟩
    simp [same]
  · rintro ⟨front, rfl⟩
    exact ⟨front.toList, by simp⟩

theorem prefix_iff {start text : String} :
    start.toList <+: text.toList ↔ ∃ rest, text = start ++ rest := by
  constructor
  · rintro ⟨rest, same⟩
    refine ⟨String.ofList rest, String.toList_inj.mp ?_⟩
    simp [same]
  · rintro ⟨rest, rfl⟩
    exact ⟨rest.toList, by simp⟩

theorem getLast?_eq_slash_iff {text : String} :
    text.toList.getLast? = some '/' ↔ ∃ front, text = front ++ "/" := by
  rw [← suffix_iff, List.getLast?_eq_some_iff]
  simp [List.IsSuffix, eq_comm]

theorem head?_eq_slash_iff {text : String} :
    text.toList.head? = some '/' ↔ ∃ back, text = "/" ++ back := by
  rw [← prefix_iff, List.head?_eq_some_iff]
  simp [List.IsPrefix, eq_comm]

/-! ### Hosts and paths -/

/-- **A domain covers the hosts within it.** -/
theorem hostCovers_iff {domain host : String} :
    hostCovers domain host = true ↔ HostWithin host domain := by
  have below : ('.' :: (Text.lower domain).toList).isSuffixOf (Text.lower host).toList = true ↔
      ∃ front, Text.lower host = front ++ "." ++ Text.lower domain := by
    have dotted : '.' :: (Text.lower domain).toList = ("." ++ Text.lower domain).toList := by simp
    rw [List.isSuffixOf_iff_suffix, dotted, suffix_iff]
    simp only [String.append_assoc]
  simp only [hostCovers, Bool.or_eq_true, beq_iff_eq, below, HostWithin]

/-- **The root covers every path**; any other path covers itself and what is below it. -/
theorem pathCovers_iff {scope path : String} :
    pathCovers scope path = true ↔ scope = "/" ∨ PathWithin path scope := by
  have goesOn : (scope.toList.isPrefixOf path.toList
      && (scope.toList.getLast? == some '/'
        || (path.toList.drop scope.toList.length).head? == some '/')) = true ↔
      ∃ rest, path = scope ++ rest ∧
        ((∃ front, scope = front ++ "/") ∨ ∃ back, rest = "/" ++ back) := by
    rw [Bool.and_eq_true, List.isPrefixOf_iff_prefix, prefix_iff, Bool.or_eq_true, beq_iff_eq,
      beq_iff_eq, getLast?_eq_slash_iff]
    constructor
    · rintro ⟨⟨rest, rfl⟩, boundary⟩
      refine ⟨rest, rfl, boundary.imp_right fun slash => head?_eq_slash_iff.mp ?_⟩
      simpa using slash
    · rintro ⟨rest, rfl, boundary⟩
      refine ⟨⟨rest, rfl⟩, boundary.imp_right fun slash => ?_⟩
      simpa using head?_eq_slash_iff.mpr slash
  simp only [pathCovers, Bool.or_eq_true, goesOn, beq_iff_eq, PathWithin, or_assoc,
    eq_comm (a := path)]

/-- What is within a path within another one is within that one. -/
theorem PathWithin.trans {below path scope : String} (within : PathWithin below path)
    (further : PathWithin path scope) : PathWithin below scope := by
  rcases within with rfl | ⟨rest, rfl, boundary⟩
  · exact further
  · rcases further with rfl | ⟨between, rfl, ends | ⟨back, rfl⟩⟩
    · exact Or.inr ⟨rest, rfl, boundary⟩
    · exact Or.inr ⟨between ++ rest, String.append_assoc, Or.inl ends⟩
    · exact Or.inr ⟨"/" ++ back ++ rest, String.append_assoc, Or.inr ⟨back ++ rest,
        String.append_assoc⟩⟩

/-! ### Cookies -/

theorem covers_iff {scope uri : Uri} : covers scope uri = true ↔
    HostsAgree scope uri ∧ (scope.pathText = "/" ∨ PathWithin uri.pathText scope.pathText) := by
  rw [← pathCovers_iff]
  unfold covers HostsAgree
  cases scope.host? <;> cases uri.host? <;> simp [hostCovers_iff]

theorem isExpired_eq_false_iff {cookie : Cookie} {now : Int} :
    cookie.isExpired now = false ↔ ∀ moment, cookie.expires = some moment → now < moment := by
  unfold isExpired
  cases cookie.expires <;> simp

theorem isSecureScheme_iff {scheme : String} :
    isSecureScheme scheme = true ↔ scheme = "https" ∨ scheme = "local" := by
  simp [isSecureScheme, Uri.localScheme]

/-- A cookie that has not expired had not expired before. -/
theorem isExpired_of_le {cookie : Cookie} {now later : Int} (le : now ≤ later)
    (expired : cookie.isExpired now = true) : cookie.isExpired later = true := by
  unfold isExpired at expired ⊢
  cases given : cookie.expires with
  | none => simp [given] at expired
  | some moment =>
    simp only [given, decide_eq_true_eq] at expired ⊢
    omega

/-- **A cookie is sent to a URI** until its end, by a scheme that is safe enough for it, if its
scope covers the URI. -/
theorem matchesUri_iff {cookie : Cookie} {scope uri : Uri} {now : Int}
    (given : cookie.scope = some scope) : cookie.matchesUri uri now = true ↔
      (∀ moment, cookie.expires = some moment → now < moment) ∧
      (cookie.secure = true → uri.scheme = "https" ∨ uri.scheme = "local") ∧
      HostsAgree scope uri ∧
      (scope.pathText = "/" ∨ PathWithin uri.pathText scope.pathText) := by
  have safe : (!cookie.secure || isSecureScheme uri.scheme) = true ↔
      (cookie.secure = true → uri.scheme = "https" ∨ uri.scheme = "local") := by
    rw [← isSecureScheme_iff]
    cases cookie.secure <;> simp
  simp only [matchesUri, given, Bool.and_eq_true, Bool.not_eq_true', isExpired_eq_false_iff, safe,
    covers_iff, and_assoc]

end Switchboard.Cookie
