import Switchboard.Message.Basic
/-!
What can go wrong with features: when they are registered and when they run.
-/

namespace Switchboard

/-- Why a feature cannot be registered or does not answer. -/
inductive FeatureFault where
  /-- The signature does not follow the grammar. -/
  | invalidSignature (signature reason : String)
  /-- The verb is neither a star nor a token. -/
  | invalidVerb (verb : String)
  /-- A parameter cannot come from where it is said to come from. -/
  | unbindable (parameter reason : String)
  /-- Two parameters of a stage have one name. -/
  | duplicate (parameter : String)
  /-- A feature has no handler. -/
  | missingHandler (feature : String)
  /-- The request has a value that is not of the declared kind. -/
  | badArgument (parameter reason : String)
  /-- A handler failed. -/
  | handler (reason : String)
  /-- The body of a message cannot be had. -/
  | body (fault : BodyFault)
  deriving DecidableEq, Repr

namespace FeatureFault

/-- The wording of a fault. -/
def message : FeatureFault → String
  | .invalidSignature signature reason =>
    "invalid feature signature '" ++ signature ++ "': " ++ reason
  | .invalidVerb verb => "invalid feature verb '" ++ verb ++ "'"
  | .unbindable parameter reason => "cannot bind parameter '" ++ parameter ++ "': " ++ reason
  | .duplicate parameter => "duplicate handler parameter '" ++ parameter ++ "'"
  | .missingHandler feature => "feature '" ++ feature ++ "' has no handler"
  | .badArgument parameter reason => "invalid value for '" ++ parameter ++ "': " ++ reason
  | .handler reason => "handler fault: " ++ reason
  | .body fault => fault.message

/-- The name of a kind of fault. -/
def name : FeatureFault → String
  | .invalidSignature _ _ => "InvalidSignature"
  | .invalidVerb _ => "InvalidVerb"
  | .unbindable _ _ => "BindingType"
  | .duplicate _ => "DuplicateParameter"
  | .missingHandler _ => "MissingHandler"
  | .badArgument _ _ => "BadArgument"
  | .handler _ => "Handler"
  | .body _ => "Core"

/-- Says whether a fault is one of registering. -/
def isConfiguration : FeatureFault → Bool
  | .invalidSignature _ _ | .invalidVerb _ | .unbindable _ _ | .duplicate _
  | .missingHandler _ => true
  | .badArgument _ _ | .handler _ | .body _ => false

/-- The status of the answer to a request that ends with a fault. -/
def status : FeatureFault → Status
  | .badArgument _ _ => .badRequest
  | _ => .internalError

/-- The answer to a request that ends with a fault. -/
def response (fault : FeatureFault) : Message := Message.explain fault.status fault.message

end FeatureFault

end Switchboard
