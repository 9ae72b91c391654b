import SqlSession.DriverError
/-!
# Diagnostic records and call results

Each call clears the log of its session or statement, runs, and reports a result together with a
copy of the records it left.  The log keeps them until the next call.

* `Diagnostics` is the log: `push`, `warn`, `clear`, and `complete`, which turns an outcome into a
  `CallResult` and records its error.
* `CallResult.toExcept` gives the value, or the last record.
-/

namespace SqlSession

/-- A status record. -/
structure DiagnosticRecord where
  state : SqlState
  message : String
  /-- The row the record is about, or -1. -/
  row : Int32 := -1
  /-- The column the record is about, or -1. -/
  column : Int32 := -1
  deriving DecidableEq, Repr

namespace DiagnosticRecord

/-- The record of an error. -/
def ofError (e : DriverError) : DiagnosticRecord := { state := e.state, message := e.message }

/-- Places a record at a row and column. -/
def withPosition (r : DiagnosticRecord) (row column : Int32) : DiagnosticRecord :=
  { r with row := row, column := column }

/-- The text shown for a record. -/
def display (r : DiagnosticRecord) : String := "[" ++ r.state.code ++ "] " ++ r.message

/-- The record reported for a failed call that left none. -/
def unknown : DiagnosticRecord := { state := .generalError, message := "Unknown error." }

end DiagnosticRecord

/-- How a call ended. -/
inductive CallStatus where
  | success
  | successWithInfo
  | error
  deriving DecidableEq, Repr

/-- The return code of a status. -/
def CallStatus.code : CallStatus → Int
  | .success => 0
  | .successWithInfo => 1
  | .error => -1

/-- The result of a call: its status, its value, and the records it left. -/
structure CallResult (α : Type) where
  status : CallStatus
  value : Option α
  records : List DiagnosticRecord
  deriving DecidableEq, Repr

namespace CallResult

variable {α β : Type}

/-- Whether a call failed. -/
def isError (r : CallResult α) : Bool := r.status = .error

/-- Whether a call did not fail. -/
def isSuccess (r : CallResult α) : Bool := r.status ≠ .error

/-- The state of the first record. -/
def state? (r : CallResult α) : Option SqlState := r.records.head?.map (·.state)

/-- Changes the value only. -/
def map (f : α → β) (r : CallResult α) : CallResult β :=
  { status := r.status, value := r.value.map f, records := r.records }

/-- The value of a call that did not fail, otherwise its last record. -/
def toExcept (r : CallResult α) : Except DiagnosticRecord α :=
  match r.status, r.value with
  | .success, some value => .ok value
  | .successWithInfo, some value => .ok value
  | _, _ => .error (r.records.getLast?.getD .unknown)

end CallResult

/-- The log of a session or statement: the records of its last call, in order. -/
structure Diagnostics where
  records : List DiagnosticRecord := []
  deriving DecidableEq, Repr

namespace Diagnostics

variable {α : Type}

/-- The empty log. -/
def empty : Diagnostics := {}

/-- Appends a record. -/
def push (d : Diagnostics) (r : DiagnosticRecord) : Diagnostics := { records := d.records ++ [r] }

/-- Appends a warning. -/
def warn (d : Diagnostics) (state : SqlState) (message : String) : Diagnostics :=
  d.push { state := state, message := message }

/-- Drops all records. -/
def clear (_ : Diagnostics) : Diagnostics := empty

/-- The record at a position, counted from 1. -/
def record? (d : Diagnostics) : Nat → Option DiagnosticRecord
  | 0 => none
  | n + 1 => d.records[n]?

/-- Ends a call: an error is recorded, and a value comes with the records that are there. -/
def complete (d : Diagnostics) : Except DriverError α → CallResult α × Diagnostics
  | .ok value =>
    ({ status := if d.records.isEmpty then .success else .successWithInfo
       value := some value, records := d.records }, d)
  | .error e =>
    let d := d.push (.ofError e)
    ({ status := .error, value := none, records := d.records }, d)

end Diagnostics

end SqlSession
