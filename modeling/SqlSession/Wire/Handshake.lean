import SqlSession.Bytes
import SqlSession.Version
/-!
# Handshake messages

The first exchange on a connection: the client names the version it speaks and its flags, the node
accepts, or rejects with its own version and a text.

* `Request.encode`, `Request.decode` write and read a request.  The lazy flag is on the wire only
  from version 2.1.5 on.
* `Response.encode`, `Response.decode` write and read a response.
* A field that is cut short is reported with the bytes it needs and the bytes that are left; bytes
  behind the last field are ignored.
-/

namespace SqlSession.Handshake

/-- The type byte of a request. -/
inductive RequestType where
  | handshake
  deriving DecidableEq, Repr

/-- The request type with a given byte. -/
def RequestType.ofTag? (tag : Int8) : Option RequestType :=
  if tag = 1 then some .handshake else none

/-- The byte of a request type. -/
def RequestType.tag : RequestType → UInt8
  | .handshake => 1

/-- The kind of client that sends a request. -/
inductive ClientType where
  | odbc
  deriving DecidableEq, Repr

/-- The client type with a given byte. -/
def ClientType.ofTag? (tag : Int8) : Option ClientType := if tag = 0 then some .odbc else none

/-- The byte of a client type. -/
def ClientType.tag : ClientType → UInt8
  | .odbc => 0

/-- The tag of a text field. -/
def textTag : UInt8 := 9

/-- The tag of an absent field. -/
def nullTag : UInt8 := 101

/-- What a client asks for. -/
structure Request where
  version : Version
  distributedJoins : Bool := false
  enforceJoinOrder : Bool := false
  replicatedOnly : Bool := false
  collocated : Bool := false
  lazy : Bool := false
  deriving DecidableEq, Repr

/-- What a node answers. -/
structure Response where
  accepted : Bool
  serverVersion : Option Version := none
  errorText : Option String := none
  deriving DecidableEq, Repr

/-- The answer of a node that accepts. -/
def Response.acceptance : Response := { accepted := true }

/-- The answer of a node that rejects. -/
def Response.rejection (serverVersion : Version) (errorText : Option String) : Response :=
  { accepted := false, serverVersion := some serverVersion, errorText := errorText }

/-- Whether requests of a version carry the lazy flag. -/
def carriesLazy (v : Version) : Bool := Version.le .v2_1_5 v

/-! ## Writing -/

/-- A flag is one byte, 0 or 1. -/
def encodeFlag (flag : Bool) : Bytes := [if flag then 1 else 0]

/-- A version is three 16-bit numbers. -/
def encodeVersion (v : Version) : Bytes :=
  Bytes.littleEndian 2 v.major.toUInt16.toNat ++ Bytes.littleEndian 2 v.minor.toUInt16.toNat ++
    Bytes.littleEndian 2 v.maintenance.toUInt16.toNat

/-- A text is a tag, its length in bytes and its UTF-8 form; an absent text is a tag alone. -/
def encodeText : Option String → Bytes
  | none => [nullTag]
  | some text =>
    let bytes := Bytes.utf8 text
    textTag :: Bytes.littleEndian 4 bytes.length ++ bytes

/-- The bytes of a request. -/
def Request.encode (r : Request) : Bytes :=
  [RequestType.handshake.tag] ++ encodeVersion r.version ++ [ClientType.odbc.tag] ++
    encodeFlag r.distributedJoins ++ encodeFlag r.enforceJoinOrder ++ encodeFlag r.replicatedOnly ++
    encodeFlag r.collocated ++ (if carriesLazy r.version then encodeFlag r.lazy else [])

/-- The bytes of a response; a rejection without a version names the current one. -/
def Response.encode (r : Response) : Bytes :=
  encodeFlag r.accepted ++
    if r.accepted then []
    else encodeVersion (r.serverVersion.getD .current) ++ encodeText r.errorText

/-! ## Reading -/

/-- A reader takes its field off the front of the bytes. -/
abbrev Reader (α : Type) := StateT Bytes (Except WireError) α

/-- Takes `n` bytes. -/
def take (n : Nat) : Reader Bytes := fun bytes =>
  if bytes.length < n then .error (.truncated n bytes.length) else .ok (bytes.take n, bytes.drop n)

/-- Reads a signed byte. -/
def readTag : Reader Int8 := do return (UInt8.ofNat (Bytes.ofLittleEndian (← take 1))).toInt8

/-- Reads a flag: any byte but 0 is set. -/
def readFlag : Reader Bool := do return (← readTag) != 0

/-- Reads a signed 16-bit number. -/
def readInt16 : Reader Int16 := do return (UInt16.ofNat (Bytes.ofLittleEndian (← take 2))).toInt16

/-- Reads a signed 32-bit number. -/
def readInt32 : Reader Int32 := do return (UInt32.ofNat (Bytes.ofLittleEndian (← take 4))).toInt32

/-- Reads a version. -/
def readVersion : Reader Version := do
  let major ← readInt16
  let minor ← readInt16
  let maintenance ← readInt16
  return ⟨major, minor, maintenance⟩

/-- Reads a text or its absence. -/
def readText : Reader (Option String) := do
  let tag ← readTag
  if tag = nullTag.toInt8 then return none
  else if tag = textTag.toInt8 then
    let length ← readInt32
    if length.toInt < 0 then throw (.invalidStringLength length)
    let bytes ← take length.toInt.toNat
    match Bytes.ofUtf8? bytes with
    | some text => return some text
    | none => throw .invalidUtf8
  else throw (.invalidStringTag tag)

/-- Reads the fields of a request. -/
def readRequest : Reader Request := do
  let type ← readTag
  if (RequestType.ofTag? type).isNone then throw (.unexpectedRequestType type)
  let version ← readVersion
  let client ← readTag
  if (ClientType.ofTag? client).isNone then throw (.unexpectedClientType client)
  let distributedJoins ← readFlag
  let enforceJoinOrder ← readFlag
  let replicatedOnly ← readFlag
  let collocated ← readFlag
  let lazy ← if carriesLazy version then readFlag else pure false
  return { version, distributedJoins, enforceJoinOrder, replicatedOnly, collocated, lazy }

/-- Reads the fields of a response; nothing follows an acceptance. -/
def readResponse : Reader Response := do
  if ← readFlag then return .acceptance
  let serverVersion ← readVersion
  let errorText ← readText
  return .rejection serverVersion errorText

/-- Reads a request from a payload. -/
def Request.decode (payload : Bytes) : Except WireError Request := readRequest.run' payload

/-- Reads a response from a payload. -/
def Response.decode (payload : Bytes) : Except WireError Response := readResponse.run' payload

end SqlSession.Handshake

namespace SqlSession

/-- Writes and reads messages for a session.  It keeps the version of the last session that was
established; handshake messages have the same form under every version kept. -/
structure Codec where
  version : Version := .current
  deriving DecidableEq, Repr

namespace Codec

open Handshake

/-- The bytes of a request. -/
def encodeRequest (_ : Codec) (r : Request) : Bytes := r.encode

/-- Reads a request. -/
def decodeRequest (_ : Codec) (payload : Bytes) : Except WireError Request := Request.decode payload

/-- The bytes of a response. -/
def encodeResponse (_ : Codec) (r : Response) : Bytes := r.encode

/-- Reads a response. -/
def decodeResponse (_ : Codec) (payload : Bytes) : Except WireError Response :=
  Response.decode payload

end Codec

end SqlSession
