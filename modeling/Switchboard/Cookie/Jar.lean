import Switchboard.Cookie.SetCookie
/-!
Cookie jars.

A jar keeps cookies in the order in which they were written. Each has a scope, and no two take the
same slot: the cookie written last to a slot stays, and one that is written after its end has come
only empties the slot.

* `Jar.update` writes cookies that came from a URI.
* `Jar.fetch` gives the cookies for a URI, longest paths first.
-/

namespace Switchboard

/-- The cookies of a caller. -/
structure Jar where
  cookies : List Cookie
  deriving DecidableEq, Repr, Inhabited

namespace Jar

/-- A jar without cookies. -/
def empty : Jar := ⟨[]⟩

/-- Throws away the cookies whose end has come. -/
def purge (jar : Jar) (now : Int) : Jar := ⟨jar.cookies.filter fun cookie => !cookie.isExpired now⟩

/-- A cookie with the scope that it has in a jar. -/
def withScope (source : Uri) (cookie : Cookie) : Cookie :=
  match cookie.scope with
  | some _ => cookie
  | none => { cookie with scope := some (Cookie.defaultScope source) }

/-- Writes a cookie that has a scope. -/
def write (now : Int) (jar : Jar) (cookie : Cookie) : Jar :=
  let others := jar.cookies.filter fun other => !other.sameSlot cookie
  ⟨if cookie.isExpired now then others else others ++ [cookie]⟩

/-- Writes cookies that came from a URI. -/
def update (jar : Jar) (cookies : List Cookie) (source : Uri) (now : Int) : Jar :=
  ((cookies.map (withScope source)).foldl (write now) jar).purge now

/-- Says whether the path of one cookie is at least as long as that of another. -/
def pathFirst (one other : Cookie) : Bool := other.path.utf8ByteSize ≤ one.path.utf8ByteSize

/-- The cookies that are sent to a URI, longest paths first and otherwise as they were written. -/
def select (jar : Jar) (uri : Uri) (now : Int) : List Cookie :=
  (jar.cookies.filter fun cookie => cookie.matchesUri uri now).mergeSort pathFirst

/-- The cookies for a URI, and the jar without those whose end has come. -/
def fetch (jar : Jar) (uri : Uri) (now : Int) : List Cookie × Jar :=
  let kept := jar.purge now
  (kept.select uri now, kept)

/-- Reads the fields by which a response sets cookies, without the malformed ones. -/
def readAll (fields : List String) (source : Uri) (now : Int) : List Cookie :=
  fields.filterMap fun field => Cookie.ofSetCookie? field source now

end Jar

end Switchboard
