import Switchboard.Text.Basic
/-!
Status codes of messages.

A status is a number. The codes below one hundred are synthetic: no remote side sends them, they say
at which step a call failed before or after the remote side answered.

* `Status.isError` is what makes a response a failure of the call.
* `Status.isFollowable` marks the redirects that a call follows by itself.
-/

namespace Switchboard

/-- The status of a message. -/
structure Status where
  code : Nat
  deriving DecidableEq, Repr

namespace Status

/-- The status of requests and of plain success. -/
def ok : Status := ⟨200⟩

instance : Inhabited Status := ⟨ok⟩

/-! ### Synthetic codes -/

/-- No endpoint serves the URI. -/
def noEndpoint : Status := ⟨1⟩
/-- A handler before the call returned no request. -/
def requestMissing : Status := ⟨10⟩
/-- The call failed before there was a response. -/
def requestFailed : Status := ⟨11⟩
/-- The call did not get a response in time. -/
def requestTimeout : Status := ⟨12⟩
/-- A handler after the call returned no response. -/
def responseMissing : Status := ⟨20⟩
/-- The response could not be used. -/
def responseFailed : Status := ⟨21⟩
/-- The body of the response did not arrive in time. -/
def transferTimeout : Status := ⟨22⟩

/-! ### Codes of the protocol -/

def created : Status := ⟨201⟩
def noContent : Status := ⟨204⟩
def movedPermanently : Status := ⟨301⟩
def found : Status := ⟨302⟩
def badRequest : Status := ⟨400⟩
def forbidden : Status := ⟨403⟩
def notFound : Status := ⟨404⟩
def methodNotAllowed : Status := ⟨405⟩
def slowRequest : Status := ⟨408⟩
def tooLarge : Status := ⟨413⟩
def internalError : Status := ⟨500⟩

/-- The phrases of the codes that have one. -/
def reasons : List (Nat × String) :=
  [(0, "Unable To Connect"), (1, "No Endpoint Found"), (10, "Request Is Null"),
   (11, "Request Failed"), (12, "Request Connection Timeout"), (20, "Response Is Null"),
   (21, "Response Failed"), (22, "Response Data Transfer Timeout"),
   (200, "OK"), (201, "Created"), (202, "Accepted"), (203, "Non-Authoritative Information"),
   (204, "No Content"), (205, "Reset Content"), (206, "Partial Content"), (207, "Multi-Status"),
   (300, "Multiple Choices"), (301, "Moved Permanently"), (302, "Found"), (303, "See Other"),
   (304, "Not Modified"), (305, "Use Proxy"), (307, "Temporary Redirect"),
   (400, "Bad Request"), (401, "Unauthorized"), (402, "Payment Required"), (403, "Forbidden"),
   (404, "Not Found"), (405, "Method Not Allowed"), (406, "Not Acceptable"),
   (407, "Proxy Authentication Required"), (408, "Request Timeout"), (409, "Conflict"),
   (410, "Gone"), (411, "Length Required"), (412, "Precondition Failed"),
   (413, "Request Entity Too Large"), (414, "Request-URI Too Long"),
   (415, "Unsupported Media Type"), (416, "Requested Range Not Satisfiable"),
   (417, "Expectation Failed"), (422, "Unprocessable Entity"), (423, "Locked"),
   (424, "Failed Dependency"),
   (500, "Internal Server Error"), (501, "Not Implemented"), (502, "Bad Gateway"),
   (503, "Service Unavailable"), (504, "Gateway Timeout"), (505, "HTTP Version Not Supported"),
   (507, "Insufficient Storage")]

/-- The phrase of a status. -/
def reason (status : Status) : String := (reasons.lookup status.code).getD "Unknown"

/-- The code and the phrase. -/
def text (status : Status) : String := Text.decimal status.code ++ " " ++ status.reason

/-! ### Classes -/

def isSynthetic (status : Status) : Bool := status.code < 100

def isSuccess (status : Status) : Bool := 200 ≤ status.code && status.code < 300

def isRedirection (status : Status) : Bool := 300 ≤ status.code && status.code < 400

/-- The redirects that keep the verb of the request. -/
def isFollowable (status : Status) : Bool := status.code ∈ [301, 302, 307]

def isClientError (status : Status) : Bool := 400 ≤ status.code && status.code < 500

def isServerError (status : Status) : Bool := 500 ≤ status.code && status.code < 600

def isError (status : Status) : Bool :=
  status.isSynthetic || status.isClientError || status.isServerError

end Status

end Switchboard
