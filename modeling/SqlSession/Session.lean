import SqlSession.Diagnostic
import SqlSession.Handle
import SqlSession.Info
import SqlSession.Negotiation
/-!
# Sessions

A session owns a transport.  It is disconnected, or connected after `establish`; `release`, `close`
or a broken link disconnect it again.

* Calls (`establish`, `release`, `getInfo`, …) clear the diagnostics, run, and give a `CallResult`.
* Transfers (`send`, `receive`, `exchange`) give their result directly and leave the diagnostics
  alone.
* A session counts as connected only while its transport is open.
-/

namespace SqlSession

/-- Whether a session is connected. -/
inductive SessionState where
  | disconnected
  | connected
  deriving DecidableEq, Repr

/-- A session over a transport of type `τ`. -/
structure Session (τ : Type) where
  handle : SessionHandle
  transport : τ
  /-- Whether the session was established and not disconnected since. -/
  phase : SessionState := .disconnected
  codec : Codec := {}
  /-- The configuration of the last attempt to connect. -/
  configuration : Configuration := {}
  /-- The version agreed on, while there is a session. -/
  negotiated : Option Version := none
  diagnostics : Diagnostics := {}
  deriving DecidableEq, Repr

/-- The attribute that says whether the connection is dead. -/
def connectionDead : Int32 := 1209

namespace Session

variable {τ : Type} [Transport τ] {α : Type}

/-- Whether the session is established and its transport open. -/
def isConnected (s : Session τ) : Bool := s.phase = .connected ∧ Transport.isOpen s.transport

/-- The state of a session; it is disconnected as soon as its transport is gone. -/
def state (s : Session τ) : SessionState := if s.isConnected then .connected else .disconnected

/-- Closes the transport and forgets the version. -/
def disconnect (s : Session τ) : Session τ :=
  { s with transport := Transport.close s.transport, phase := .disconnected, negotiated := none }

/-- Runs a call: the diagnostics are those of this call alone. -/
def call (s : Session τ) (op : Session τ → Except DriverError α × Session τ) :
    CallResult α × Session τ :=
  let (outcome, s) := op { s with diagnostics := s.diagnostics.clear }
  let (result, diagnostics) := s.diagnostics.complete outcome
  (result, { s with diagnostics := diagnostics })

/-! ## Connecting -/

/-- Checks that a session can be established with a configuration, before anything is done. -/
def check (s : Session τ) (c : Configuration) :
    Except DriverError (Endpoint × Handshake.Request) :=
  if s.isConnected then .error .alreadyConnected
  else
    match c.endpoint with
    | .error e => .error (.invalidConnectionStringAttribute e.message)
    | .ok endpoint => (Negotiation.prepare c).map fun request => (endpoint, request)

/-- Connects to an endpoint and negotiates. -/
def connect (s : Session τ) (endpoint : Endpoint) (request : Handshake.Request) :
    Except DriverError Unit × Session τ :=
  match Transport.connect s.transport endpoint.host endpoint.port with
  | (.error cause, t) =>
    (.error (.cannotConnect endpoint.host endpoint.port cause), { s with transport := t })
  | (.ok (), t) =>
    match Negotiation.negotiate t s.codec request with
    | (.error e, t) => (.error e, { s with transport := t }.disconnect)
    | (.ok version, t) =>
      (.ok (),
        { s with
          transport := t
          phase := .connected
          codec := { version }
          negotiated := some version })

/-- Establishes a session: checks, keeps the configuration, connects. -/
def start (s : Session τ) (c : Configuration) : Except DriverError Unit × Session τ :=
  match s.check c with
  | .error e => (.error e, s)
  | .ok (endpoint, request) =>
    let t := Transport.setConnectTimeout s.transport c.connectTimeout
    { s with configuration := c, transport := t }.connect endpoint request

/-- Connects to the node that a configuration describes. -/
def establish (s : Session τ) (c : Configuration) : CallResult Unit × Session τ :=
  s.call fun s => s.start c

/-- Connects to the node that a connection string describes. -/
def establishWith (s : Session τ) (connectString : String) : CallResult Unit × Session τ :=
  s.call fun s =>
    match Configuration.ofConnectString connectString with
    | .error e => (.error (.general e.message), s)
    | .ok c => s.start c

/-- Disconnects a connected session. -/
def release (s : Session τ) : CallResult Unit × Session τ :=
  s.call fun s =>
    (if s.isConnected then .ok () else .error (.notConnected "Connection is not open."),
      s.disconnect)

/-- Disconnects a session in any state. -/
def close (s : Session τ) : CallResult Unit × Session τ :=
  s.call fun s => (.ok (), s.disconnect)

/-! ## Information and attributes -/

/-- The warning for a text that was cut. -/
def truncationText : String := "Buffer is too small for the data. Truncated from the right."

/-- Writes an information value into a buffer; the value of the call is its full length. -/
def getInfo (s : Session τ) (number : UInt16) (buffer : Bytes) :
    (CallResult Nat × Bytes) × Session τ :=
  let version := s.negotiated.getD s.codec.version
  let (written, buffer) := Info.write s.configuration version number buffer
  let (result, s) := s.call fun s =>
    match written with
    | .error e => (.error e, s)
    | .ok w =>
      (.ok w.length,
        if w.truncated then
          { s with diagnostics := s.diagnostics.warn .dataTruncated truncationText }
        else s)
  ((result, buffer), s)

/-- The value of the attribute that says whether the connection is dead: 0 or 1 in four bytes. -/
def deadBytes (s : Session τ) : Bytes := Bytes.littleEndian 4 (if s.isConnected then 0 else 1)

/-- Reads an attribute into a buffer. -/
def readAttribute (s : Session τ) (id : Int32) :
    Option Bytes → Except DriverError Nat × Bytes
  | none => (.error (.general "Data buffer is NULL."), [])
  | some buffer =>
    if id = connectionDead then
      let bytes := s.deadBytes
      if buffer.length < bytes.length then
        (.error (.general "Buffer is too small for the attribute value."), buffer)
      else (.ok bytes.length, bytes ++ buffer.drop bytes.length)
    else (.error (.notImplemented "Specified attribute is not supported."), buffer)

/-- Reads an attribute into a buffer; the value of the call is its length. -/
def getAttribute (s : Session τ) (id : Int32) (buffer : Option Bytes) :
    (CallResult Nat × Bytes) × Session τ :=
  let (outcome, buffer) := s.readAttribute id buffer
  let (result, s) := s.call fun s => (outcome, s)
  ((result, buffer), s)

/-- Sets an attribute; none can be set. -/
def setAttribute (s : Session τ) (id : Int32) (_value : Bytes) : CallResult Unit × Session τ :=
  s.call fun s =>
    if id = connectionDead then
      (.error (.optionTypeOutOfRange "Attribute is read only."), s)
    else (.error (.notImplemented "Specified attribute is not supported."), s)

/-- Commits; statements have committed already. -/
def commit (s : Session τ) : CallResult Unit × Session τ :=
  s.call fun s => (.ok (), s)

/-- Rolls back, which no session can. -/
def rollback (s : Session τ) : CallResult Unit × Session τ :=
  s.call fun s => (.error (.notImplemented "Rollback operation is not supported."), s)

/-! ## Transfers -/

/-- Disconnects after a transfer that failed and left the transport closed. -/
def trackLink (s : Session τ) (outcome : Except DriverError α) : Except DriverError α × Session τ :=
  match outcome with
  | .ok a => (.ok a, s)
  | .error e =>
    (.error e, if e.closesTransport || !Transport.isOpen s.transport then s.disconnect else s)

/-- Runs a transfer on the transport of a connected session. -/
def transfer (s : Session τ) (op : τ → Except DriverError α × τ) :
    Except DriverError α × Session τ :=
  if s.isConnected then
    let (outcome, t) := op s.transport
    { s with transport := t }.trackLink outcome
  else (.error (.notConnected "Connection is not established"), s)

/-- Sends one message. -/
def send (s : Session τ) (payload : Bytes) : Except DriverError Unit × Session τ :=
  s.transfer fun t => Framing.send t payload

/-- Receives one message. -/
def receive (s : Session τ) : Except DriverError Bytes × Session τ :=
  s.transfer Framing.receive

/-- Sends a request and receives its answer. -/
def exchange (s : Session τ) (request : Bytes) : Except DriverError Bytes × Session τ :=
  match s.send request with
  | (.error e, s) => (.error e, s)
  | (.ok (), s) => s.receive

end Session

end SqlSession
