import Switchboard.Message.Fault
import Switchboard.Status
import Switchboard.Uri.Host
/-!
What can go wrong with a call.
-/

namespace Switchboard

/-- The error of a library for calls over the wire: its wording and what it tells of itself. -/
structure HttpFault where
  reason : String
  /-- Time ran out. -/
  timedOut : Bool := false
  /-- The other side was not reached. -/
  unconnected : Bool := false
  /-- The status that the error stands for. -/
  status? : Option Status := none
  deriving DecidableEq, Repr

/-- Why an endpoint does not answer, or an answer is not taken for one. -/
inductive CallFault where
  /-- The endpoint waited too long. -/
  | timeout (limit : Span)
  /-- The other side cannot be reached. -/
  | connection (reason : String)
  /-- The connection was lost. -/
  | transport (reason : String)
  /-- The answer is not a success. -/
  | response (status : Status) (reason : String)
  | invalidUri (reason : String)
  | handler (reason : String)
  /-- The request cannot be sent, or what comes back is no answer. -/
  | http (fault : HttpFault)
  | uri (fault : UriFault)
  | body (fault : BodyFault)
  deriving DecidableEq, Repr

namespace CallFault

/-- The wording of a fault. -/
def message : CallFault → String
  | .timeout limit => "Request timed out after " ++ limit.text
  | .connection reason => "Connection error: " ++ reason
  | .transport reason => "Transport error: " ++ reason
  | .response status reason => "Response error: " ++ status.text ++ " - " ++ reason
  | .invalidUri reason => "Invalid URI: " ++ reason
  | .handler reason => "Handler error: " ++ reason
  | .http fault => "HTTP error: " ++ fault.reason
  | .uri fault => "URL parse error: " ++ fault.message
  | .body fault => fault.message

/-- The name of a kind of fault. -/
def name : CallFault → String
  | .timeout _ => "Timeout"
  | .connection _ => "Connection"
  | .transport _ => "Transport"
  | .response _ _ => "Response"
  | .invalidUri _ => "InvalidUri"
  | .handler _ => "Handler"
  | .http _ => "Http"
  | .uri _ => "UrlParse"
  | .body _ => "Core"

/-- Says whether time ran out. -/
def isTimeout : CallFault → Bool
  | .timeout _ => true
  | .http fault => fault.timedOut
  | .body fault => fault.isTimeout
  | .response status _ => status = .requestTimeout || status = .transferTimeout
  | _ => false

/-- Says whether the other side was not reached. -/
def isConnection : CallFault → Bool
  | .connection _ => true
  | .http fault => fault.unconnected
  | _ => false

/-- The status of an answer that is not a success. -/
def status? : CallFault → Option Status
  | .response status _ => some status
  | .http fault => fault.status?
  | _ => none

end CallFault

end Switchboard
