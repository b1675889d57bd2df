import Switchboard.Feature.Access
import Switchboard.Signature
import Switchboard.Uri.Edit
import Switchboard.Verb
/-!
What a feature knows about the request that it serves.
-/

namespace Switchboard

/-- The circumstances of a request, the same for every stage of a feature. -/
structure Context where
  service : String
  /-- The signature of the feature as it was written. -/
  signature : String
  verb : Verb
  uri : Uri
  /-- What was granted to the caller. -/
  access : Access
  path : PathArguments
  deriving Repr, Inhabited

namespace Context

/-- The decoded pairs of the query. -/
def queryPairs (context : Context) : List (String × String) := context.uri.queryPairs

/-- The values of a name in the query, up to the case of ASCII letters. -/
def queryAll (context : Context) (name : String) : List String :=
  (context.queryPairs.filter fun pair => Text.sameName pair.1 name).map Prod.snd

/-- The first value of a name in the query. -/
def query? (context : Context) (name : String) : Option String := (context.queryAll name).head?

/-- The segments captured without a name and those after the last position. -/
def suffixes (context : Context) : List String := context.path.suffixes

end Context

end Switchboard
