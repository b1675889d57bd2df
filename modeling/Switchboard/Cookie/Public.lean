import Switchboard.Cookie.Basic
/-!
Scopes of cookies behind an alias.

A request to a public URI may be served at a local one. What the two paths have in common at their
ends is what was asked for; what stands before it are the local and the public place of the service.
A scope below the local place becomes the same scope below the public one.
-/

namespace Switchboard.Cookie

/-- The length of the longest common end of two lists of segments, up to the case of letters. -/
def sharedEnd (one other : List String) : Nat :=
  ((one.reverse.zip other.reverse).takeWhile fun (a, b) => Text.sameName a b).length

/-- Puts one list of segments in the place of another one at the start of a path. -/
def rebase (items front replacement : List String) : List String :=
  if Uri.beginsWith items front then replacement ++ items.drop front.length else items

/-- The scope in public terms of a scope that is given in local terms. -/
def publicScope (scope localUri publicUri : Uri) : Uri :=
  let localItems := localUri.segments
  let publicItems := publicUri.segments
  let shared := sharedEnd localItems publicItems
  let items := rebase scope.segments (localItems.take (localItems.length - shared))
    (publicItems.take (publicItems.length - shared))
  scopeAt publicUri ("/" ++ Text.join "/" items)

/-- A cookie that was set at a local URI, as the caller of the public one has to keep it. A cookie
for another host keeps its scope. -/
def toPublic (cookie : Cookie) (localUri publicUri : Uri) : Cookie :=
  let secured := { cookie with secure := cookie.secure || publicUri.scheme == "https" }
  match cookie.scope with
  | none => secured
  | some scope => match scope.host?, localUri.host? with
    | some one, some other =>
      if Text.sameName one other then
        { secured with scope := some (publicScope scope localUri publicUri) }
      else secured
    | _, _ => secured

end Switchboard.Cookie
