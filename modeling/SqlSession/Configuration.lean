import SqlSession.Attribute
import SqlSession.Text.Numeral
import SqlSession.Version
/-!
# Configurations

A configuration says which node a session connects to, and how.  It starts from the defaults, or
from a named data source; then the attributes of a connection string are set in order, and on demand
three environment variables.

* `setAttribute` sets one attribute; an unknown key is ignored.
* `applyConnectString` sets all attributes of a connection string; what is set before a faulty value
  stays set.
* `endpoint` is the host and port to connect to.  An address goes before server and port.
* `connectString` writes a configuration as a connection string.
-/

namespace SqlSession

/-- The port used when none is configured. -/
def defaultPort : UInt16 := 10800

/-- What a session connects to.  Address and version are kept as texts and read when they are
used. -/
structure Configuration where
  /-- The data source the configuration came from. -/
  dsn : Option String := none
  driver : String := "gridlink"
  /-- A host with an optional port; it goes before `server` and `port`. -/
  address : Option String := none
  server : String := "localhost"
  port : UInt16 := defaultPort
  schema : String := "PUBLIC"
  pageSize : UInt32 := 1024
  protocolVersion : String := Version.current.text
  distributedJoins : Bool := false
  enforceJoinOrder : Bool := false
  replicatedOnly : Bool := false
  collocated : Bool := false
  lazy : Bool := false
  /-- The time in seconds a connect may take; zero means no bound. -/
  loginTimeout : UInt64 := 0
  deriving DecidableEq, Repr

/-- A host and a port. -/
structure Endpoint where
  host : String
  port : UInt16
  deriving DecidableEq, Repr

/-- What an attribute sets. -/
inductive Field where
  | dsn
  | driver
  | address
  | server
  | port
  | schema
  | pageSize
  | protocolVersion
  | distributedJoins
  | enforceJoinOrder
  | replicatedOnly
  | collocated
  | lazy
  | loginTimeout
  deriving DecidableEq, Repr

/-- The field that a key in capitals names; two keys name the server. -/
def Field.ofKey? : String → Option Field
  | "DSN" => some .dsn
  | "DRIVER" => some .driver
  | "ADDRESS" => some .address
  | "SERVER" => some .server
  | "HOST" => some .server
  | "PORT" => some .port
  | "SCHEMA" => some .schema
  | "PAGE_SIZE" => some .pageSize
  | "PROTOCOL_VERSION" => some .protocolVersion
  | "DISTRIBUTED_JOINS" => some .distributedJoins
  | "ENFORCE_JOIN_ORDER" => some .enforceJoinOrder
  | "REPLICATED_ONLY" => some .replicatedOnly
  | "COLLOCATED" => some .collocated
  | "LAZY" => some .lazy
  | "LOGIN_TIMEOUT" => some .loginTimeout
  | _ => none

/-- The key that a connection string uses for a field. -/
def Field.key : Field → String
  | .dsn => "DSN"
  | .driver => "DRIVER"
  | .address => "ADDRESS"
  | .server => "SERVER"
  | .port => "PORT"
  | .schema => "SCHEMA"
  | .pageSize => "PAGE_SIZE"
  | .protocolVersion => "PROTOCOL_VERSION"
  | .distributedJoins => "DISTRIBUTED_JOINS"
  | .enforceJoinOrder => "ENFORCE_JOIN_ORDER"
  | .replicatedOnly => "REPLICATED_ONLY"
  | .collocated => "COLLOCATED"
  | .lazy => "LAZY"
  | .loginTimeout => "LOGIN_TIMEOUT"

/-- Environment variables that override a configuration. -/
structure Overrides where
  address : Option String := none
  schema : Option String := none
  protocolVersion : Option String := none
  deriving DecidableEq, Repr

namespace Configuration

open Text

/-! ## Setting attributes -/

/-- Reads a truth value in any case. -/
def readFlag (value : String) : Option Bool :=
  if sameLetters value "true" then some true
  else if sameLetters value "false" then some false
  else none

/-- Sets a field from a trimmed text, if the text is a value of the field. -/
def set? (c : Configuration) (field : Field) (value : String) : Option Configuration :=
  match field with
  | .dsn => some { c with dsn := some value }
  | .driver => some { c with driver := value }
  | .address => some { c with address := if value.isEmpty then none else some value }
  | .server => some { c with server := value }
  | .port => (readUInt16 value.toList).map ({ c with port := · })
  | .schema => some { c with schema := value }
  | .pageSize =>
    ((readUInt32 value.toList).filter (· ≠ 0)).map ({ c with pageSize := · })
  | .protocolVersion => some { c with protocolVersion := value }
  | .distributedJoins => (readFlag value).map ({ c with distributedJoins := · })
  | .enforceJoinOrder => (readFlag value).map ({ c with enforceJoinOrder := · })
  | .replicatedOnly => (readFlag value).map ({ c with replicatedOnly := · })
  | .collocated => (readFlag value).map ({ c with collocated := · })
  | .lazy => (readFlag value).map ({ c with lazy := · })
  | .loginTimeout => (readUInt64 value.toList).map ({ c with loginTimeout := · })

/-- Sets the attribute with a given key, in any case and with blanks around; so for the value. -/
def setAttribute (c : Configuration) (key value : String) : Except ConfigError Configuration :=
  let key := String.ofList (upper (trim key.toList))
  let value := trimmed value
  match Field.ofKey? key with
  | none => .ok c
  | some field =>
    match c.set? field value with
    | some c => .ok c
    | none => .error (.invalidValue key value)

/-- Sets attributes in order up to the first faulty one; the result comes with what was set. -/
def setAll (c : Configuration) : List Attribute → Except ConfigError Unit × Configuration
  | [] => (.ok (), c)
  | a :: as =>
    match c.setAttribute a.key a.value with
    | .ok c => setAll c as
    | .error e => (.error e, c)

/-- Sets attributes in order; the first faulty one is the error. -/
def withAll (c : Configuration) (attributes : List Attribute) : Except ConfigError Configuration :=
  match c.setAll attributes with
  | (.ok (), c) => .ok c
  | (.error e, _) => .error e

/-- Sets the attributes of a connection string.  One with a syntax error sets nothing. -/
def applyConnectString (c : Configuration) (s : String) : Except ConfigError Unit × Configuration :=
  match Attribute.parseAll s with
  | .error e => (.error e, c)
  | .ok attributes => c.setAll attributes

/-- The configuration of a connection string on top of the defaults. -/
def ofConnectString (s : String) : Except ConfigError Configuration :=
  match applyConnectString {} s with
  | (.ok (), c) => .ok c
  | (.error e, _) => .error e

/-- Sets the environment variables that are there; an empty address counts as not there. -/
def override (c : Configuration) (o : Overrides) : Configuration :=
  { c with
    address := match o.address with
      | some address => if address.isEmpty then c.address else some address
      | none => c.address
    schema := o.schema.getD c.schema
    protocolVersion := o.protocolVersion.getD c.protocolVersion }

/-! ## Reading a configuration -/

/-- The host and port texts of an address: `[host]`, `[host]:port`, `host:port`, or a host alone.
An address with several colons and no bracket is a host alone. -/
def splitAddress (cs : List Char) : Option (List Char × Option (List Char)) :=
  match cs with
  | '[' :: inner =>
    match Attribute.cut ']' inner with
    | (_, none) => none
    | (host, some []) => some (host, none)
    | (host, some (':' :: port)) => some (host, some port)
    | (_, some _) => none
  | _ => if cs.count ':' = 1 then some (Attribute.cut ':' cs) else some (cs, none)

/-- The endpoint an address names; a missing port is `port`. -/
def addressEndpoint? (address : String) (port : UInt16) : Option Endpoint :=
  match splitAddress address.toList with
  | none => none
  | some ([], _) => none
  | some (host, none) => some ⟨String.ofList host, port⟩
  | some (host, some portText) =>
    (readUInt16 (trim portText)).map fun port => ⟨String.ofList host, port⟩

/-- The host and port to connect to. -/
def endpoint (c : Configuration) : Except ConfigError Endpoint :=
  match c.address with
  | none =>
    if c.server.isEmpty then .error (.invalidValue "SERVER" c.server) else .ok ⟨c.server, c.port⟩
  | some address =>
    match addressEndpoint? address c.port with
    | some e => .ok e
    | none => .error (.invalidValue "ADDRESS" address)

/-- The configured protocol version. -/
def version (c : Configuration) : Except ConfigError Version :=
  match Version.parse c.protocolVersion with
  | .ok v => .ok v
  | .error _ => .error (.invalidValue "PROTOCOL_VERSION" c.protocolVersion)

/-- The time in seconds a connect may take, if it is bounded. -/
def connectTimeout (c : Configuration) : Option UInt64 :=
  if c.loginTimeout > 0 then some c.loginTimeout else none

/-! ## Writing -/

/-- The text of a truth value. -/
def flagText (flag : Bool) : String := if flag then "true" else "false"

/-- The attributes that describe a configuration.  With an address, server and port are left out. -/
def attributes (c : Configuration) : List Attribute :=
  let dsn := match c.dsn with
    | some dsn => [⟨Field.dsn.key, dsn⟩]
    | none => []
  let place : List Attribute := match c.address with
    | some address => [⟨Field.address.key, address⟩]
    | none => [⟨Field.server.key, c.server⟩, ⟨Field.port.key, toString c.port.toNat⟩]
  let timeout : List Attribute :=
    if c.loginTimeout > 0 then [⟨Field.loginTimeout.key, toString c.loginTimeout.toNat⟩] else []
  dsn ++ [⟨Field.driver.key, c.driver⟩] ++ place ++
    [⟨Field.schema.key, c.schema⟩,
     ⟨Field.pageSize.key, toString c.pageSize.toNat⟩,
     ⟨Field.protocolVersion.key, c.protocolVersion⟩,
     ⟨Field.distributedJoins.key, flagText c.distributedJoins⟩,
     ⟨Field.enforceJoinOrder.key, flagText c.enforceJoinOrder⟩,
     ⟨Field.replicatedOnly.key, flagText c.replicatedOnly⟩,
     ⟨Field.collocated.key, flagText c.collocated⟩,
     ⟨Field.lazy.key, flagText c.lazy⟩] ++ timeout

/-- The configuration as a connection string. -/
def connectString (c : Configuration) : String := Attribute.renderAll c.attributes

end Configuration

end SqlSession
