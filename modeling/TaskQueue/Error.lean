import TaskQueue.Time.Duration

/-!
# `TaskQueue.Error`: what can go wrong

`ConnectorError` is what a connector reports about its broker. `Error` is what the client
reports to its caller. `ConnectorError.toError` leads from the one to the other: a refused
publication and a malformed result stay what they are, everything else is a failed connection.
-/

set_option autoImplicit false

namespace TaskQueue

/-- A failure of the client. -/
inductive Error where
  | connectionFailed (reason : String)
  | publishFailed (reason : String)
  | malformedResult (reason : String)
  | prematureAccess (accessor : String)
  | invalidArguments (reason : String)
  | invalidDate (field reason : String)
  | invalidCallback (field reason : String)
  | timeout (taskName arguments : String) (limit : Duration)
  | noBackendAvailable
  | unknownBackend (name : String)
  | backendUnavailable (name : String)
  | serialization (reason : String)
  | configuration (reason : String)
deriving DecidableEq, Repr, Inhabited

namespace Error

/-- A name between grave accents. -/
def ticked (s : String) : String := "\x60" ++ s ++ "\x60"

/-- The error in words. -/
def message : Error → String
  | connectionFailed reason => "connection failed: " ++ reason
  | publishFailed reason => "publish failed: " ++ reason
  | malformedResult reason => "malformed result: " ++ reason
  | prematureAccess accessor => "called " ++ accessor ++ " before task was ready"
  | invalidArguments reason => "invalid task arguments: " ++ reason
  | invalidDate field reason => "invalid date parameter " ++ ticked field ++ ": " ++ reason
  | invalidCallback field reason =>
    "invalid callback parameter " ++ ticked field ++ ": " ++ reason
  | timeout taskName arguments limit =>
    "task " ++ taskName ++ "(" ++ arguments ++ ") did not return after " ++ limit.text
  | noBackendAvailable => "no usable broker backend available"
  | unknownBackend name => "unknown backend: " ++ name
  | backendUnavailable name => "backend " ++ ticked name ++ " is not available in this build"
  | serialization reason => "serialization error: " ++ reason
  | configuration reason => "configuration error: " ++ reason

/-- The name of the kind of error. -/
def kind : Error → String
  | connectionFailed _ => "ConnectionFailed"
  | publishFailed _ => "PublishFailed"
  | malformedResult _ => "MalformedResult"
  | prematureAccess _ => "PrematureAccess"
  | invalidArguments _ => "InvalidArguments"
  | invalidDate .. => "InvalidDateParameter"
  | invalidCallback .. => "InvalidCallbackParameter"
  | timeout .. => "Timeout"
  | noBackendAvailable => "NoBackendAvailable"
  | unknownBackend _ => "UnknownBackend"
  | backendUnavailable _ => "BackendUnavailable"
  | serialization _ => "Serialization"
  | configuration _ => "Configuration"

/-- Whether the caller may try the whole operation again. -/
def isRetryable : Error → Bool
  | connectionFailed _ | publishFailed _ | timeout .. => true
  | _ => false

/-- Whether the error is a misuse of the client. -/
def isMisuse : Error → Bool
  | prematureAccess _ | invalidArguments _ => true
  | _ => false

/-- Whether the error arose while a backend was chosen. -/
def isSelection : Error → Bool
  | noBackendAvailable | unknownBackend _ | backendUnavailable _ => true
  | _ => false

end Error

/-- A failure of a connector. -/
inductive ConnectorError where
  | connection (reason : String)
  | publish (reason : String)
  | consume (reason : String)
  | ack (reason : String)
  | malformed (reason : String)
  | pool (reason : String)
  | notConnected
deriving DecidableEq, Repr, Inhabited

namespace ConnectorError

/-- The error in words. -/
def message : ConnectorError → String
  | connection reason => "connection error: " ++ reason
  | publish reason => "publish error: " ++ reason
  | consume reason => "consume error: " ++ reason
  | ack reason => "acknowledgment error: " ++ reason
  | malformed reason => "malformed result: " ++ reason
  | pool reason => "connection pool error: " ++ reason
  | notConnected => "connector is not connected"

/-- The name of the kind of error. -/
def kind : ConnectorError → String
  | connection _ => "Connection"
  | publish _ => "Publish"
  | consume _ => "Consume"
  | ack _ => "Ack"
  | malformed _ => "Malformed"
  | pool _ => "Pool"
  | notConnected => "NotConnected"

/-- The error as the client reports it. -/
def toError : ConnectorError → Error
  | publish reason => .publishFailed reason
  | malformed reason => .malformedResult reason
  | e => .connectionFailed e.message

end ConnectorError
end TaskQueue
