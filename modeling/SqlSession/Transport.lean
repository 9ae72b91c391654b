import SqlSession.Bytes
import SqlSession.DriverError
/-!
# Transports

A transport is a blocking byte stream to one host.  Every operation gives its result and the
transport after it.

* `send` takes a part of the bytes offered, from the front, and says how many it took.
* `receive` gives at most as many bytes as asked for; no bytes mean that the peer closed the stream.
* `fill` receives into a buffer of the caller.
-/

namespace SqlSession

/-- What a transport of type `τ` can do. -/
class Transport (τ : Type) where
  /-- Opens the stream to a host and port. -/
  connect : τ → String → UInt16 → Except LinkError Unit × τ
  /-- Offers bytes; the answer is how many were taken. -/
  send : τ → Bytes → Except LinkError Nat × τ
  /-- Asks for up to a number of bytes. -/
  receive : τ → Nat → Except LinkError Bytes × τ
  /-- Closes the stream, also if it is closed. -/
  close : τ → τ
  /-- Whether the stream is open. -/
  isOpen : τ → Bool
  /-- Bounds the time in seconds that `connect` may take. -/
  setConnectTimeout : τ → Option UInt64 → τ

/-- Receives into a buffer of the caller: the bytes that come are written over its front. -/
def Transport.fill {τ : Type} [Transport τ] (t : τ) (buffer : Bytes) :
    (Except LinkError Nat × Bytes) × τ :=
  match Transport.receive t buffer.length with
  | (.ok bytes, t) => ((.ok bytes.length, bytes ++ buffer.drop bytes.length), t)
  | (.error cause, t) => ((.error cause, buffer), t)

end SqlSession
