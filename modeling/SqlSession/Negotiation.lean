import SqlSession.Configuration
import SqlSession.Framing
import SqlSession.Wire.Handshake
/-!
# Negotiation

A session starts with one exchange on an open transport: the client asks for a version and flags,
the node accepts or rejects.

* `prepare` checks what a configuration asks for before any transfer.
* `negotiate` runs the exchange; the version agreed on is always the one asked for.
-/

namespace SqlSession.Negotiation

open Handshake

variable {τ : Type} [Transport τ]

/-- The request a configuration asks for. -/
def prepare (c : Configuration) : Except DriverError Request :=
  match c.version with
  | .error e => .error (.invalidConnectionStringAttribute e.message)
  | .ok version =>
    if version.isSupported then
      .ok
        { version
          distributedJoins := c.distributedJoins
          enforceJoinOrder := c.enforceJoinOrder
          replicatedOnly := c.replicatedOnly
          collocated := c.collocated
          lazy := c.lazy }
    else
      .error (.invalidConnectionStringAttribute
        ("Protocol version is not supported: " ++ version.text))

/-- The text for a rejection; an error text of the node is passed on. -/
def rejectionText (response : Response) (requested : Version) : String :=
  let info := match response.errorText with
    | some text => if text.isEmpty then "" else "Additional info: " ++ text ++ " "
    | none => ""
  let node := match response.serverVersion with
    | some version => version.text
    | none => "unknown"
  "Node rejected handshake message. " ++ info ++ "Current node version: " ++ node ++
    ", driver protocol version introduced in version: " ++ requested.text ++ "."

/-- What the payload of an answer says. -/
def agreement (codec : Codec) (request : Request) (payload : Bytes) : Except DriverError Version :=
  match codec.decodeResponse payload with
  | .error e => .error (.malformedHandshake e)
  | .ok response =>
    if response.accepted then .ok request.version
    else .error (.connectionRejected (rejectionText response request.version))

/-- Sends a request and reads the answer.  Link failures are passed on; closing is up to the
caller. -/
def negotiate (t : τ) (codec : Codec) (request : Request) : Except DriverError Version × τ :=
  match Framing.send t (codec.encodeRequest request) with
  | (.error e, t) => (.error e, t)
  | (.ok (), t) =>
    match Framing.receive t with
    | (.error e, t) => (.error e, t)
    | (.ok payload, t) => (agreement codec request payload, t)

end SqlSession.Negotiation
