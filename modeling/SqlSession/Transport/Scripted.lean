import SqlSession.Transport
/-!
# The scripted transport

A transport that answers from scripts and logs what it is asked.  A script says what the next
transfers do; behind its end every transfer fails.
-/

namespace SqlSession

/-- An operation that a scripted transport was asked for. -/
inductive TransportCall where
  | send (offered : Bytes)
  | receive (asked : Nat)
  | close
  deriving DecidableEq, Repr

/-- A transport that answers from scripts. -/
structure ScriptedTransport where
  /-- How many bytes each `send` takes at most; nothing means that it fails. -/
  sends : List (Option Nat) := []
  /-- What each `receive` brings; nothing means that it fails. -/
  receives : List (Option Bytes) := []
  isOpen : Bool := false
  /-- The operations so far, the last one first. -/
  log : List TransportCall := []
  deriving DecidableEq, Repr

namespace ScriptedTransport

/-- Logs an operation. -/
def note (t : ScriptedTransport) (call : TransportCall) : ScriptedTransport :=
  { t with log := call :: t.log }

/-- The operations so far, in order. -/
def calls (t : ScriptedTransport) : List TransportCall := t.log.reverse

/-- Forgets the operations so far. -/
def clearCalls (t : ScriptedTransport) : ScriptedTransport := { t with log := [] }

/-- Takes as many bytes as the script says. -/
def send (t : ScriptedTransport) (bytes : Bytes) : Except LinkError Nat × ScriptedTransport :=
  let t := t.note (.send bytes)
  match t.sends with
  | some n :: rest => (.ok (min n bytes.length), { t with sends := rest })
  | none :: rest => (.error .broken, { t with sends := rest })
  | [] => (.error .broken, t)

/-- Brings the bytes of the script, cut to what was asked for. -/
def receive (t : ScriptedTransport) (n : Nat) : Except LinkError Bytes × ScriptedTransport :=
  let t := t.note (.receive n)
  match t.receives with
  | some bytes :: rest => (.ok (bytes.take n), { t with receives := rest })
  | none :: rest => (.error .broken, { t with receives := rest })
  | [] => (.error .broken, t)

instance : Transport ScriptedTransport where
  connect t _ _ := (.ok (), { t with isOpen := true })
  send := send
  receive := receive
  close t := { t.note .close with isOpen := false }
  isOpen := isOpen
  setConnectTimeout t _ := t

end ScriptedTransport

end SqlSession
