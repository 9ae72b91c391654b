import SqlSession.Configuration
import SqlSession.DriverError
import SqlSession.Bytes
/-!
# Driver and connection information

A caller asks for a value by its number and gives a buffer for it.

* `InfoType` lists the values that exist, `Info.value` gives one.
* `Info.write` writes one into a buffer.  Texts end with a NUL and are cut to fit; an empty buffer
  asks for the length only.  Integers are little-endian and must fit whole.
-/

namespace SqlSession

/-- The values that can be asked for. -/
inductive InfoType where
  | dataSourceName
  | driverName
  | driverVersion
  | serverName
  | searchPatternEscape
  | databaseName
  | dbmsName
  | dbmsVersion
  | dataSourceReadOnly
  | identifierQuoteChar
  | maxSchemaNameLength
  | schemaTerm
  | catalogNameSeparator
  | tableTerm
  | transactionCapable
  | userName
  | driverOdbcVersion
  | getDataExtensions
  | odbcInterfaceConformance
  | maxIdentifierLength
  deriving DecidableEq, Repr

namespace InfoType

/-- Every type, by ascending number. -/
def all : List InfoType :=
  [dataSourceName, driverName, driverVersion, serverName, searchPatternEscape, databaseName,
   dbmsName, dbmsVersion, dataSourceReadOnly, identifierQuoteChar, maxSchemaNameLength, schemaTerm,
   catalogNameSeparator, tableTerm, transactionCapable, userName, driverOdbcVersion,
   getDataExtensions, odbcInterfaceConformance, maxIdentifierLength]

/-- The number of a type. -/
def number : InfoType → UInt16
  | dataSourceName => 2
  | driverName => 6
  | driverVersion => 7
  | serverName => 13
  | searchPatternEscape => 14
  | databaseName => 16
  | dbmsName => 17
  | dbmsVersion => 18
  | dataSourceReadOnly => 25
  | identifierQuoteChar => 29
  | maxSchemaNameLength => 32
  | schemaTerm => 39
  | catalogNameSeparator => 41
  | tableTerm => 45
  | transactionCapable => 46
  | userName => 47
  | driverOdbcVersion => 77
  | getDataExtensions => 81
  | odbcInterfaceConformance => 152
  | maxIdentifierLength => 10005

/-- The symbolic name of a type. -/
def name : InfoType → String
  | dataSourceName => "SQL_DATA_SOURCE_NAME"
  | driverName => "SQL_DRIVER_NAME"
  | driverVersion => "SQL_DRIVER_VER"
  | serverName => "SQL_SERVER_NAME"
  | searchPatternEscape => "SQL_SEARCH_PATTERN_ESCAPE"
  | databaseName => "SQL_DATABASE_NAME"
  | dbmsName => "SQL_DBMS_NAME"
  | dbmsVersion => "SQL_DBMS_VER"
  | dataSourceReadOnly => "SQL_DATA_SOURCE_READ_ONLY"
  | identifierQuoteChar => "SQL_IDENTIFIER_QUOTE_CHAR"
  | maxSchemaNameLength => "SQL_MAX_SCHEMA_NAME_LEN"
  | schemaTerm => "SQL_SCHEMA_TERM"
  | catalogNameSeparator => "SQL_CATALOG_NAME_SEPARATOR"
  | tableTerm => "SQL_TABLE_TERM"
  | transactionCapable => "SQL_TXN_CAPABLE"
  | userName => "SQL_USER_NAME"
  | driverOdbcVersion => "SQL_DRIVER_ODBC_VER"
  | getDataExtensions => "SQL_GETDATA_EXTENSIONS"
  | odbcInterfaceConformance => "SQL_ODBC_INTERFACE_CONFORMANCE"
  | maxIdentifierLength => "SQL_MAX_IDENTIFIER_LEN"

/-- The type with a given number. -/
def ofNumber? (n : UInt16) : Option InfoType := all.find? fun t => t.number == n

/-- The types with numbers in a closed range, ascending. -/
def inRange (first last : UInt16) : List InfoType :=
  all.filter fun t => first ≤ t.number && t.number ≤ last

end InfoType

/-- A value that can be asked for. -/
inductive InfoValue where
  | text (s : String)
  | word (n : UInt16)
  | double (n : UInt32)
  deriving DecidableEq, Repr

/-- The text shown for a value. -/
def InfoValue.display : InfoValue → String
  | .text s => s
  | .word n => toString n.toNat
  | .double n => toString n.toNat

/-- What writing a value reports. -/
structure InfoWritten where
  /-- The length of the whole value in bytes, without the NUL. -/
  length : Nat
  /-- Whether a text was cut. -/
  truncated : Bool
  deriving DecidableEq, Repr

namespace Info

/-- A version in the form `##.##.####`. -/
def versionText (major minor maintenance : Int) : String :=
  Text.padded 2 major ++ "." ++ Text.padded 2 minor ++ "." ++ Text.padded 4 maintenance

/-- The host of the endpoint, or the configured server if there is no endpoint. -/
def serverName (c : Configuration) : String :=
  match c.endpoint with
  | .ok e => e.host
  | .error _ => c.server

/-- The value of a type for a configuration and a protocol version. -/
def value (c : Configuration) (v : Version) : InfoType → InfoValue
  | .dataSourceName => .text (c.dsn.getD "")
  | .driverName => .text "gridlink-client"
  | .driverVersion => .text (versionText 0 1 0)
  | .serverName => .text (serverName c)
  | .searchPatternEscape => .text "\\"
  | .databaseName => .text c.schema
  | .dbmsName => .text "Gridlink"
  | .dbmsVersion => .text (versionText v.major.toInt v.minor.toInt v.maintenance.toInt)
  | .dataSourceReadOnly => .text "N"
  | .identifierQuoteChar => .text "\""
  | .maxSchemaNameLength => .word 0
  | .schemaTerm => .text "schema"
  | .catalogNameSeparator => .text "."
  | .tableTerm => .text "table"
  | .transactionCapable => .word 0
  | .userName => .text ""
  | .driverOdbcVersion => .text "03.00"
  | .getDataExtensions => .double 3
  | .odbcInterfaceConformance => .double 1
  | .maxIdentifierLength => .word 128

/-- The value with a given number. -/
def value? (c : Configuration) (v : Version) (number : UInt16) : Option InfoValue :=
  (InfoType.ofNumber? number).map (value c v)

/-- Writes the bytes of a text and a NUL into a buffer. -/
def writeText (bytes buffer : Bytes) : InfoWritten × Bytes :=
  match buffer.length with
  | 0 => ({ length := bytes.length, truncated := false }, buffer)
  | room + 1 =>
    let n := min bytes.length room
    ({ length := bytes.length, truncated := n < bytes.length },
      bytes.take n ++ 0 :: buffer.drop (n + 1))

/-- Writes the bytes of an integer into a buffer. -/
def writeInteger (bytes buffer : Bytes) : Except DriverError InfoWritten × Bytes :=
  if buffer.length < bytes.length then
    (.error (.general ("Buffer is too small: " ++ toString bytes.length ++ " bytes required, " ++
      toString buffer.length ++ " provided.")), buffer)
  else
    (.ok { length := bytes.length, truncated := false }, bytes ++ buffer.drop bytes.length)

/-- Writes the value with a given number into a buffer. -/
def write (c : Configuration) (v : Version) (number : UInt16) (buffer : Bytes) :
    Except DriverError InfoWritten × Bytes :=
  match value? c v number with
  | none => (.error (.notImplemented "Not implemented."), buffer)
  | some (.text s) =>
    let (written, buffer) := writeText (Bytes.utf8 s) buffer
    (.ok written, buffer)
  | some (.word n) => writeInteger (Bytes.littleEndian 2 n.toNat) buffer
  | some (.double n) => writeInteger (Bytes.littleEndian 4 n.toNat) buffer

end Info

end SqlSession
