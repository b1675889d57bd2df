import Switchboard.Dispatcher
import Switchboard.Endpoint.Basic
/-!
Endpoints in the same process.

A local endpoint serves a host of the scheme for what is in the process, by a dispatcher. It also
serves what lies below the URIs that are aliases of it: the part of the path after the alias and the
query are then asked of the host itself. Who calls by a local URI has internal access; who calls by
an alias has none but that of everyone.
-/

namespace Switchboard

/-- A host in the same process. -/
structure LocalHost where
  name : String
  uri : Uri
  /-- The URIs below which the host is served too, the first of which counts. -/
  aliases : List Uri
  deriving DecidableEq, Repr, Inhabited

variable {σ : Type}

namespace LocalHost

/-- The host of a name, without aliases. -/
def ofName (name : String) : Except CallFault LocalHost :=
  let name := Text.lower name
  match Uri.parse (Uri.localScheme ++ "://" ++ name ++ "/") with
  | .ok uri => .ok { name, uri, aliases := [] }
  | .error fault => .error (.uri fault)

/-- Adds an alias. -/
def addAlias (host : LocalHost) (uri : Uri) : LocalHost :=
  { host with aliases := host.aliases ++ [uri] }

/-- The name of the endpoint. -/
def label (host : LocalHost) : String := "local:" ++ host.name

/-- Says whether a URI names the host. -/
def isNamedBy (host : LocalHost) (uri : Uri) : Bool :=
  uri.isLocal && uri.host?.any fun name => Text.sameName name host.name

/-- Says whether a URI lies below another one. -/
def liesBelow (uri root : Uri) : Bool :=
  root.sameOrigin uri && Uri.beginsWith uri.segments root.segments

/-- A URI below an alias as one of the host itself. -/
def ownUri (host : LocalHost) (uri root : Uri) : Uri :=
  { host.uri.replace (uri.segments.drop root.segments.length) with query := uri.query }

/-- A URI below the first alias that it lies below as one of the host itself. -/
def ownUri? (host : LocalHost) (uri : Uri) : Option Uri :=
  (host.aliases.find? (liesBelow uri)).map (host.ownUri uri)

/-- The score of a URI. -/
def score (host : LocalHost) (uri : Uri) : Option (Int × Uri) :=
  if host.isNamedBy uri then some (Endpoint.schemeScore, uri)
  else (host.ownUri? uri).map fun uri => (Endpoint.forcedScore, uri)

end LocalHost

namespace Endpoint

/-- The access of who calls by a URI. -/
def grantedTo (uri : Uri) : Access := if uri.isLocal then .internal else .anyone

end Endpoint

/-- Answers calls by a dispatcher, with the access of the URI of the plug. -/
def Dispatcher.answerer (dispatcher : Dispatcher σ) : Answerer σ :=
  fun plug verb uri request _ => do
    let response ← dispatcher.dispatch verb uri request (Endpoint.grantedTo plug.uri)
    return .ok response

namespace Endpoint

/-- The endpoint for a host that a dispatcher serves. -/
def localHost (key : Nat) (host : LocalHost) (dispatcher : Dispatcher σ) : Endpoint σ :=
  { key, name := host.label, score := host.score, delivery := .answers dispatcher.answerer }

end Endpoint

end Switchboard
