import SqlSession.Bytes.Queue
import SqlSession.Transport
/-!
# The memory transport

A transport that keeps its bytes in memory: what is sent is recorded, what is received was queued
before.  It can move few bytes at a time, stop taking bytes, refuse connections, and give back what
was sent.
-/

namespace SqlSession

/-- The most bytes one transfer moves; at least one. -/
abbrev ChunkLimit := { n : Nat // 0 < n }

/-- The limit of `n` bytes, or of one byte if `n` is zero. -/
def ChunkLimit.ofNat (n : Nat) : ChunkLimit := ⟨max n 1, by omega⟩

/-- A transport in memory. -/
structure MemoryTransport where
  /-- Bytes queued for receiving. -/
  inbound : ByteQueue := {}
  /-- Bytes taken by `send`. -/
  sent : ByteQueue := {}
  isOpen : Bool := false
  /-- Whether sent bytes are queued for receiving. -/
  loopback : Bool := false
  /-- Whether connections are refused. -/
  refuses : Bool := false
  /-- The most bytes one transfer moves, if there is a limit. -/
  maxChunk : Option ChunkLimit := none
  /-- How many more bytes `send` takes, if there is a limit. -/
  sendBudget : Option Nat := none
  connectTimeout : Option UInt64 := none
  connectCalls : Nat := 0
  sendCalls : Nat := 0
  receiveCalls : Nat := 0
  closeCalls : Nat := 0
  deriving DecidableEq, Repr

namespace MemoryTransport

/-- Limits every transfer to `n` bytes. -/
def withMaxChunk (t : MemoryTransport) (n : Nat) : MemoryTransport :=
  { t with maxChunk := some (.ofNat n) }

/-- Takes only `n` more bytes. -/
def withSendBudget (t : MemoryTransport) (n : Nat) : MemoryTransport :=
  { t with sendBudget := some n }

/-- Refuses connections. -/
def refusingConnections (t : MemoryTransport) : MemoryTransport := { t with refuses := true }

/-- Queues bytes for receiving. -/
def pushInbound (t : MemoryTransport) (bytes : Bytes) : MemoryTransport :=
  { t with inbound := t.inbound.append bytes }

/-- Forgets the bytes recorded by `send`. -/
def clearSent (t : MemoryTransport) : MemoryTransport := { t with sent := {} }

/-- How many of `n` bytes one transfer may move. -/
def chunk (t : MemoryTransport) (n : Nat) : Nat :=
  match t.maxChunk with
  | some limit => min n limit.val
  | none => n

/-- The most bytes the next `send` takes, if there is a limit. -/
def sendLimit (t : MemoryTransport) : Option Nat :=
  match t.sendBudget with
  | some budget => some (t.chunk budget)
  | none => t.maxChunk.map (·.val)

/-- The bytes that the next `send` takes of those it is offered. -/
def accepted (t : MemoryTransport) (bytes : Bytes) : Bytes :=
  match t.sendLimit with
  | some n => bytes.take n
  | none => bytes

/-- Opens the stream, unless connections are refused. -/
def connect (t : MemoryTransport) : Except LinkError Unit × MemoryTransport :=
  let t := { t with connectCalls := t.connectCalls + 1 }
  if t.refuses then (.error .connectionRefused, t) else (.ok (), { t with isOpen := true })

/-- Records a part of the bytes, as much as the limits allow. -/
def send (t : MemoryTransport) (bytes : Bytes) : Except LinkError Nat × MemoryTransport :=
  let t := { t with sendCalls := t.sendCalls + 1 }
  if t.isOpen then
    let taken := t.accepted bytes
    let n := taken.length
    (.ok n,
      { t with
        sendBudget := t.sendBudget.map (· - n)
        sent := t.sent.append taken
        inbound := if t.loopback then t.inbound.append taken else t.inbound })
  else (.error .notConnected, t)

/-- Hands out queued bytes. -/
def receive (t : MemoryTransport) (n : Nat) : Except LinkError Bytes × MemoryTransport :=
  let t := { t with receiveCalls := t.receiveCalls + 1 }
  if t.isOpen then
    let (bytes, inbound) := t.inbound.split (t.chunk n)
    (.ok bytes, { t with inbound := inbound })
  else (.error .notConnected, t)

/-- Closes the stream; queued and recorded bytes stay. -/
def close (t : MemoryTransport) : MemoryTransport :=
  { t with closeCalls := t.closeCalls + 1, isOpen := false }

instance : Transport MemoryTransport where
  connect t _ _ := t.connect
  send := send
  receive := receive
  close := close
  isOpen := isOpen
  setConnectTimeout t timeout := { t with connectTimeout := timeout }

end MemoryTransport

end SqlSession
