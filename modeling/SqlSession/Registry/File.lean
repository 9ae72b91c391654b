import SqlSession.Bytes
import SqlSession.Registry
import SqlSession.Yaml.Library
/-!
# Data source files

A registry is kept in a YAML file: a mapping from names to mappings of fields.  Any YAML library
writes and reads it.

* `Configuration.ofNode` reads a configuration.  Unknown fields are skipped, a field may be given
  only once, and missing fields have their defaults.
* `Registry.ofFile` reads a file, `Registry.text` is what is written to one.
-/

namespace SqlSession

open Yaml

/-- The name of a field in a file. -/
def Field.name : Field → String
  | .dsn => "dsn"
  | .driver => "driver"
  | .address => "address"
  | .server => "server"
  | .port => "port"
  | .schema => "schema"
  | .pageSize => "page_size"
  | .protocolVersion => "protocol_version"
  | .distributedJoins => "distributed_joins"
  | .enforceJoinOrder => "enforce_join_order"
  | .replicatedOnly => "replicated_only"
  | .collocated => "collocated"
  | .lazy => "lazy"
  | .loginTimeout => "login_timeout_secs"

/-- Every field, in the order in which a file gives them. -/
def Field.all : List Field :=
  [.dsn, .driver, .address, .server, .port, .schema, .pageSize, .protocolVersion, .distributedJoins,
   .enforceJoinOrder, .replicatedOnly, .collocated, .lazy, .loginTimeout]

/-- The field with a given name. -/
def Field.ofName? (name : String) : Option Field := Field.all.find? fun f => f.name == name

variable [Library]

namespace Configuration

/-! ## Reading -/

/-- Sets a field from a node. -/
def setNode (c : Configuration) (field : Field) (n : Library.Node) : Reading Configuration :=
  match field with
  | .dsn => ({ c with dsn := · }) <$> Library.optionalText n
  | .driver => ({ c with driver := · }) <$> Library.text n
  | .address => ({ c with address := · }) <$> Library.optionalText n
  | .server => ({ c with server := · }) <$> Library.text n
  | .port => ({ c with port := UInt16.ofNat · }) <$> Library.number UInt16.size n
  | .schema => ({ c with schema := · }) <$> Library.text n
  | .pageSize => ({ c with pageSize := UInt32.ofNat · }) <$> Library.number UInt32.size n
  | .protocolVersion => ({ c with protocolVersion := · }) <$> Library.text n
  | .distributedJoins => ({ c with distributedJoins := · }) <$> Library.flag n
  | .enforceJoinOrder => ({ c with enforceJoinOrder := · }) <$> Library.flag n
  | .replicatedOnly => ({ c with replicatedOnly := · }) <$> Library.flag n
  | .collocated => ({ c with collocated := · }) <$> Library.flag n
  | .lazy => ({ c with lazy := · }) <$> Library.flag n
  | .loginTimeout => ({ c with loginTimeout := UInt64.ofNat · }) <$> Library.number UInt64.size n

/-- Sets fields in order; none of them may be given before.  The value of an unknown field is not
looked at. -/
def setPairs (c : Configuration) (given : List Field) :
    List (Library.Node × Library.Node) → Reading Configuration
  | [] => pure c
  | (key, n) :: rest => do
    match Field.ofName? (← Library.text key) with
    | none => setPairs c given rest
    | some field =>
      if given.contains field then
        throw (Library.complaint key ("duplicate field `" ++ field.name ++ "`"))
      else setPairs (← c.setNode field n) (field :: given) rest

/-- Reads a configuration. -/
def ofNode (n : Library.Node) : Reading Configuration := do
  setPairs {} [] (← Library.pairs n)

end Configuration

namespace Registry

/-- Reads an entry. -/
def entryOf (pair : Library.Node × Library.Node) : Reading (String × Configuration) := do
  let name ← Library.text pair.1
  return (name, ← Configuration.ofNode pair.2)

/-- Reads the entries of a registry. -/
def entriesOf (n : Library.Node) : Reading (List (String × Configuration)) := do
  (← Library.pairs n).mapM entryOf

/-- Reads a registry from a text. -/
def ofText (text : String) : Except String Registry := do
  let (root, state) ← Library.load text
  return ofList (← (entriesOf root).run' state)

/-- Reads a registry from the contents of a file, or from the reason why it cannot be read. -/
def ofFile (path : String) (contents : Except FileFault Bytes) : Except ConfigError Registry :=
  match contents with
  | .error fault => .error (.file path fault)
  | .ok bytes =>
    match Bytes.ofUtf8? bytes with
    | none => .error (.file path .notText)
    | some text =>
      match ofText text with
      | .error complaint => .error (.malformedFile { path, complaint })
      | .ok r => .ok r

end Registry

/-! ## Writing -/

namespace Configuration

/-- What a field is written as, unless it is absent. -/
def value? (c : Configuration) : Field → Option Value
  | .dsn => c.dsn.map .text
  | .driver => some (.text c.driver)
  | .address => c.address.map .text
  | .server => some (.text c.server)
  | .port => some (.number c.port.toUInt64)
  | .schema => some (.text c.schema)
  | .pageSize => some (.number c.pageSize.toUInt64)
  | .protocolVersion => some (.text c.protocolVersion)
  | .distributedJoins => some (.flag c.distributedJoins)
  | .enforceJoinOrder => some (.flag c.enforceJoinOrder)
  | .replicatedOnly => some (.flag c.replicatedOnly)
  | .collocated => some (.flag c.collocated)
  | .lazy => some (.flag c.lazy)
  | .loginTimeout => some (.number c.loginTimeout)

/-- Some fields with what they are written as; those that are absent are left out. -/
def fieldValues (c : Configuration) (fields : List Field) : List (String × Value) :=
  fields.filterMap fun f => (c.value? f).map fun v => (f.name, v)

/-- What a configuration is written as. -/
def value (c : Configuration) : Value := .mapping (c.fieldValues Field.all)

end Configuration

namespace Registry

/-- What a registry is written as. -/
def value (r : Registry) : Value := .mapping (r.entries.map fun e => (e.1, e.2.value))

/-- What is written to a file. -/
def text (r : Registry) : String := Library.write r.value

/-- What saving to a file comes to, given what writing it came to. -/
def saved (path : String) (written : Except FileFault Unit) : Except ConfigError Unit :=
  match written with
  | .ok () => .ok ()
  | .error fault => .error (.file path fault)

end Registry

end SqlSession
