import SqlSession.Transport
import SqlSession.Wire.Frame
/-!
# Frames over a transport

A transport moves any part of the bytes it is offered, so a frame takes as many transfers as it
needs.  A transfer that fails, or moves nothing, ends the frame and closes the transport.

* `Framing.send` sends a payload as one frame.
* `Framing.receive` receives one frame and gives its payload; a part of a body is never given out.

Memory for a body is reserved before it comes.  Here there is always enough of it: a reservation
that fails, which would close the transport and end the frame for want of memory, does not happen.
-/

namespace SqlSession.Framing

variable {τ : Type} [Transport τ]

/-- Bodies are received in steps of at most this size, so that a header alone reserves no memory. -/
def receiveStep : Nat := 64 * 1024

/-- Sends bytes until all are taken or the transport gives up; the answer is what was not taken. -/
def sendAll (t : τ) (data : Bytes) : Bytes × τ :=
  match data with
  | [] => ([], t)
  | b :: bs =>
    match Transport.send t (b :: bs) with
    | (.ok (n + 1), t) => sendAll t (bs.drop n)
    | (_, t) => (b :: bs, Transport.close t)
termination_by data.length

/-- Receives up to `n` bytes more, fewer if the transport gives up.  What was received comes with
the last byte first. -/
def receiveMore (t : τ) (received : Bytes) (n : Nat) : Bytes × τ :=
  if n = 0 then (received, t)
  else
    match Transport.receive t n with
    | (.ok (b :: bs), t) => receiveMore t (bs.reverseAux (b :: received)) (n - (bs.length + 1))
    | (_, t) => (received, Transport.close t)
termination_by n

/-- Receives up to `n` bytes, fewer if the transport gives up. -/
def receiveAll (t : τ) (n : Nat) : Bytes × τ :=
  let (received, t) := receiveMore t [] n
  (received.reverse, t)

/-- Receives a body of `n` bytes in steps, taking it that memory for it can be reserved. -/
def receiveBody (t : τ) (n : Nat) : Option Bytes × τ :=
  if n = 0 then (some [], t)
  else
    let step := min n receiveStep
    let (part, t) := receiveAll t step
    if part.length = step then
      let (rest, t) := receiveBody t (n - step)
      (rest.map (part ++ ·), t)
    else (none, t)
termination_by n
decreasing_by simp only [receiveStep]; omega

/-- Sends a payload as one frame. -/
def send (t : τ) (payload : Bytes) : Except DriverError Unit × τ :=
  match Frame.encode payload with
  | .error e => (.error (.general e.message), t)
  | .ok frame =>
    let (left, t) := sendAll t frame
    if left.isEmpty then (.ok (), t)
    else (.error (.linkFailure "Can not send message due to connection failure"), t)

/-- Receives one frame and gives its payload. -/
def receive (t : τ) : Except DriverError Bytes × τ :=
  let (header, t) := receiveAll t FrameHeader.size
  if header.length = FrameHeader.size then
    match (FrameHeader.decode header).payloadLength with
    | .error _ =>
      (.error (.linkFailure "Protocol error: Message length is negative"), Transport.close t)
    | .ok n =>
      match receiveBody t n with
      | (some body, t) => (.ok body, t)
      | (none, t) => (.error (.linkFailure "Can not receive message body"), t)
  else (.error (.linkFailure "Can not receive message header"), t)

end SqlSession.Framing
