import Switchboard.Endpoint.Basic
import Switchboard.Uri.Parser
/-!
Endpoints that put one scheme in the place of another.

The text of the URI after its scheme stays, and the whole is read again. The call goes to whoever
serves the new URI.
-/

namespace Switchboard.Endpoint

variable {σ : Type}

/-- A URI with another scheme, if the text is a URI then. -/
def rescheme (scheme : String) (uri : Uri) : Option Uri :=
  (Uri.parse (scheme ++ uri.restText)).toOption

/-- The score of a URI for what puts the scheme `target` in the place of `source`. -/
def swapScore (source target : String) (uri : Uri) : Option (Int × Uri) :=
  if source = target ∨ !Text.sameName uri.scheme source then none
  else (rescheme target uri).map fun uri => (forcedScore, uri)

/-- The endpoint that puts one scheme in the place of another. -/
def schemeSwap (key : Nat) (source target : String) : Endpoint σ :=
  let source := Text.lower source
  let target := Text.lower target
  { key, name := "rewrite:" ++ source ++ "->" ++ target, score := swapScore source target
    delivery := .handsOn }

end Switchboard.Endpoint
