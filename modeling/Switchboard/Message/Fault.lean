import Switchboard.Json.Reader
import Switchboard.Time.Span
/-!
What can go wrong with the body of a message.
-/

namespace Switchboard

/-- Why the body of a message cannot be had. -/
inductive BodyFault where
  /-- The message was closed. -/
  | closed
  /-- The stream was handed to somebody else. -/
  | consumed
  /-- The stream has not been read into memory. -/
  | unread
  /-- A body that is not in memory was to be copied. -/
  | notCloneable
  /-- There was more than the limit. -/
  | overflow (limit : Nat)
  /-- The stream did not end in time. -/
  | timeout (limit : Span)
  /-- The bytes are not what was asked for. -/
  | invalid (reason : String)
  /-- The bytes are not a document. -/
  | document (fault : Json.Fault)
  /-- The stream failed. -/
  | stream (reason : String)
  deriving DecidableEq, Repr

namespace BodyFault

/-- The wording of a fault. -/
def message : BodyFault → String
  | .closed => "message is already closed"
  | .consumed => "message body stream was already consumed"
  | .unread => "message body is an unread stream; memorize it first"
  | .notCloneable => "message is not cloneable"
  | .overflow limit => "message body exceeds the " ++ Text.decimal limit ++ " byte buffer limit"
  | .timeout limit => "message body transfer timed out after " ++ limit.text
  | .invalid reason => "invalid message body: " ++ reason
  | .document fault => "JSON error: " ++ fault.message
  | .stream reason => "IO error: " ++ reason

/-- The name of a kind of fault. -/
def name : BodyFault → String
  | .closed => "AlreadyClosed"
  | .consumed => "BodyConsumed"
  | .unread => "NotMemorized"
  | .notCloneable => "NotCloneable"
  | .overflow _ => "BufferOverflow"
  | .timeout _ => "Timeout"
  | .invalid _ => "InvalidBody"
  | .document _ => "Json"
  | .stream _ => "Io"

/-- Says whether time ran out. -/
def isTimeout : BodyFault → Bool
  | .timeout _ => true
  | _ => false

/-- Says whether a message was used after its end. -/
def isLifecycle : BodyFault → Bool
  | .closed | .consumed => true
  | _ => false

end BodyFault

end Switchboard
