/-!
# SQLSTATE codes

A status record carries a five-character code.  The first two characters are its class, the rest its
subclass.
-/

namespace SqlSession

/-- The states that records carry. -/
inductive SqlState where
  | dataTruncated
  | invalidConnectionStringAttribute
  | cannotConnect
  | alreadyConnected
  | notConnected
  | connectionRejected
  | linkFailure
  | generalError
  | memoryAllocation
  | optionTypeOutOfRange
  | optionalFeatureNotImplemented
  deriving DecidableEq, Repr

namespace SqlState

/-- Every state. -/
def all : List SqlState :=
  [dataTruncated, invalidConnectionStringAttribute, cannotConnect, alreadyConnected, notConnected,
   connectionRejected, linkFailure, generalError, memoryAllocation, optionTypeOutOfRange,
   optionalFeatureNotImplemented]

/-- The five characters of a state. -/
def code : SqlState → String
  | dataTruncated => "01004"
  | invalidConnectionStringAttribute => "01S00"
  | cannotConnect => "08001"
  | alreadyConnected => "08002"
  | notConnected => "08003"
  | connectionRejected => "08004"
  | linkFailure => "08S01"
  | generalError => "HY000"
  | memoryAllocation => "HY001"
  | optionTypeOutOfRange => "HY092"
  | optionalFeatureNotImplemented => "HYC00"

/-- The state with a given code. -/
def ofCode? (code : String) : Option SqlState := all.find? fun s => s.code == code

/-- Whether a state is a warning: its class is 01. -/
def isWarning (s : SqlState) : Bool := s.code.toList.take 2 == ['0', '1']

/-- The standard that defines classes of its own for drivers. -/
def odbc : String := "ODBC 3.0"

/-- The standard that defines the other classes. -/
def iso : String := "ISO 9075"

/-- Whether a state is in the class that a driver manager reports. -/
def inManagerClass (s : SqlState) : Bool := s.code.toList.take 2 == ['I', 'M']

/-- The standard that defines the class. -/
def classOrigin (s : SqlState) : String := if s.inManagerClass then odbc else iso

/-- The standard that defines the subclass: ODBC's own subclasses start with an S. -/
def subclassOrigin (s : SqlState) : String :=
  if s.code.toList[2]? = some 'S' ∨ s.inManagerClass then odbc else iso

end SqlState

end SqlSession
