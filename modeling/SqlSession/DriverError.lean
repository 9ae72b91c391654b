import SqlSession.SqlState
import SqlSession.Wire.Error
/-!
# Driver errors

What makes a call on a session fail.  Each error has one SQLSTATE and one text; some leave the
transport closed.
-/

namespace SqlSession

/-- Why a transport could not connect, send or receive. -/
inductive LinkError where
  | notConnected
  | connectionRefused
  /-- The stream broke in the middle of a transfer. -/
  | broken
  deriving DecidableEq, Repr

/-- The text shown for a link error. -/
def LinkError.message : LinkError → String
  | .notConnected => "not connected"
  | .connectionRefused => "connection refused"
  | .broken => "broken pipe"

/-- Why a call on a session fails. -/
inductive DriverError where
  | alreadyConnected
  | cannotConnect (host : String) (port : UInt16) (cause : LinkError)
  | notConnected (text : String)
  | linkFailure (text : String)
  | general (text : String)
  | memoryAllocation
  | notImplemented (text : String)
  | optionTypeOutOfRange (text : String)
  | invalidConnectionStringAttribute (text : String)
  | connectionRejected (text : String)
  /-- The answer to a handshake could not be read. -/
  | malformedHandshake (cause : WireError)
  deriving DecidableEq, Repr

namespace DriverError

/-- The text shown for a driver error. -/
def message : DriverError → String
  | alreadyConnected => "Already connected."
  | cannotConnect _ _ _ => "Failed to establish connection with the host."
  | notConnected text => text
  | linkFailure text => text
  | general text => text
  | memoryAllocation => "Not enough memory."
  | notImplemented text => text
  | optionTypeOutOfRange text => text
  | invalidConnectionStringAttribute text => text
  | connectionRejected text => text
  | malformedHandshake cause => "Malformed handshake response: " ++ cause.message

/-- The state reported for a driver error; an unreadable answer counts as a rejection. -/
def state : DriverError → SqlState
  | alreadyConnected => .alreadyConnected
  | cannotConnect _ _ _ => .cannotConnect
  | notConnected _ => .notConnected
  | linkFailure _ => .linkFailure
  | general _ => .generalError
  | memoryAllocation => .memoryAllocation
  | notImplemented _ => .optionalFeatureNotImplemented
  | optionTypeOutOfRange _ => .optionTypeOutOfRange
  | invalidConnectionStringAttribute _ => .invalidConnectionStringAttribute
  | connectionRejected _ => .connectionRejected
  | malformedHandshake _ => .connectionRejected

/-- Whether the error leaves the transport closed. -/
def closesTransport : DriverError → Bool
  | linkFailure _ => true
  | connectionRejected _ => true
  | malformedHandshake _ => true
  | _ => false

/-- Whether the error was caused by an error of another kind. -/
def hasCause : DriverError → Bool
  | cannotConnect _ _ _ => true
  | malformedHandshake _ => true
  | _ => false

end DriverError

end SqlSession
