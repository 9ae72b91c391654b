import SqlSession.Registry.File
import SqlSession.Session
import SqlSession.Text.Quoted
import SqlSession.Yaml.Builtin
/-!
# The connection probe

The probe is a command that builds a configuration from a connection string and prints it, or tries
to connect with it.  What it prints is computed here; the transport, the contents of files and the
environment are handed in.  So is the YAML library, the built-in one where no other is given.

* `Options.configuration` builds the configuration.
* `run` gives what a command prints and its exit code.
-/

namespace SqlSession.Probe

/-- What the probe is asked to work on. -/
structure Options where
  connect : String := ""
  /-- A data source to start from. -/
  dsn : Option String := none
  /-- The path and contents of the data source file. -/
  file : Option (String × Except FileFault Bytes) := none
  /-- The overrides to apply, if they are asked for. -/
  overrides : Option Overrides := none

/-- What the probe does. -/
inductive Command where
  | ping
  | info (number : Option UInt16)
  | config
  deriving DecidableEq, Repr

/-- What a command prints, and its exit code. -/
structure Output where
  out : String := ""
  err : String := ""
  code : UInt8 := 0
  deriving DecidableEq, Repr

namespace Options

/-- The connection string with the data source in front. -/
def connectString (o : Options) : String :=
  match o.dsn with
  | some dsn => "DSN=\x7b" ++ dsn ++ "\x7d;" ++ o.connect
  | none => o.connect

variable [Yaml.Library]

/-- The data sources of the file. -/
def registry (o : Options) : Except ConfigError Registry :=
  match o.file with
  | some (path, contents) => Registry.ofFile path contents
  | none => .ok .empty

/-- The configuration that the options describe. -/
def configuration (o : Options) : Except ConfigError Configuration := do
  let registry ← o.registry
  let c ← registry.resolve o.connectString
  return match o.overrides with
    | some overrides => c.override overrides
    | none => c

end Options

/-! ## Reports -/

/-- A file fault as an error report gives it. -/
def faultDetail : FileFault → String
  | .system number kind text =>
    "Os \x7b code: " ++ toString number ++ ", kind: " ++ kind ++ ", message: " ++
      Text.quoted text ++ " \x7d"
  | .notText =>
    "Error \x7b kind: InvalidData, message: " ++ Text.quoted FileFault.notTextMessage ++ " \x7d"

/-- A configuration error as an error report gives it. -/
def errorDetail : ConfigError → String
  | .file path fault => "IoError(" ++ Text.quoted path ++ ", " ++ faultDetail fault ++ ")"
  | .malformedFile f =>
    "ParseError(" ++ Text.quoted f.path ++ ", " ++ Text.quoted f.complaint ++ ")"
  | .invalidSyntax near => "InvalidSyntax(" ++ Text.quoted near ++ ")"
  | .invalidValue key value =>
    "InvalidValue \x7b key: " ++ Text.quoted key ++ ", value: " ++ Text.quoted value ++ " \x7d"
  | .unknownDataSource name => "UnknownDsn(" ++ Text.quoted name ++ ")"

/-- The output of a command that failed. -/
def failure (detail : String) : Output := { err := "Error: " ++ detail ++ "\n", code := 1 }

/-- The line for a record. -/
def recordLine (r : DiagnosticRecord) : String :=
  (if r.state.isWarning then "Warning" else "Error") ++ " " ++ r.display ++ "\n"

/-- The lines for the records of a call. -/
def report {α : Type} (result : CallResult α) : String :=
  String.join (result.records.map recordLine)

/-- Output, followed by more of it. -/
def Output.andThen (a b : Output) : Output :=
  { out := a.out ++ b.out, err := a.err ++ b.err, code := b.code }

/-! ## Commands -/

variable {τ : Type} [Transport τ]

/-- Prints the configuration in both its written forms. -/
def showConfiguration [Yaml.Library] (c : Configuration) : Output :=
  { out := Yaml.Library.write c.value ++ c.connectString ++ "\n" }

/-- Connects a session, and goes on with it if that worked. -/
def withSession (s : Session τ) (c : Configuration) (next : Session τ → Output) : Output :=
  let (result, s) := s.establish c
  let reported : Output := { err := report result }
  reported.andThen
    (if result.isError then failure (Text.quoted "Connection failed")
    else next s)

/-- Connects and disconnects.  How long it took is for the caller to say. -/
def ping (s : Session τ) (c : Configuration) (elapsed : String) : Output :=
  withSession s c fun s =>
    let place := match s.configuration.endpoint with
      | .ok e => e.host ++ ":" ++ toString e.port.toNat
      | .error _ => ""
    let version := match s.negotiated with
      | some v => v.text
      | none => ""
    { out := "Connected " ++ place ++ " protocol " ++ version ++ " in " ++ elapsed ++ "\n"
      err := report s.release.1 }

/-- Puts blanks in front of a text. -/
def alignRight (width : Nat) (text : String) : String :=
  String.ofList (List.replicate (width - text.length) ' ') ++ text

/-- The size of the buffer that values are asked for with. -/
def bufferSize : Nat := 1024

/-- The bytes of a text in a buffer: up to the NUL, or `length` of them if there is none. -/
def bufferText (length : Nat) (buffer : Bytes) : Bytes :=
  if buffer.contains 0 then buffer.takeWhile (· != 0) else buffer.take length

/-- A text whose bytes may end inside a character; a replacement character stands for what is left
of it. -/
def cutText (bytes : Bytes) : String :=
  let without (n : Nat) : Option String := Bytes.ofUtf8? (bytes.take (bytes.length - n))
  match without 0 with
  | some text => text
  | none => (([1, 2, 3].findSome? without).getD "").push '\ufffd'

/-- Asks a session for values in order. -/
def showValues (s : Session τ) : List UInt16 → Output
  | [] => { err := report s.release.1 }
  | number :: rest =>
    let ((result, buffer), s) := s.getInfo number (List.replicate bufferSize 0)
    let version := s.negotiated.getD .current
    let line := match result.value, Info.value? s.configuration version number with
      | some length, some value =>
        let text := match value with
          | .text _ => cutText (bufferText length buffer)
          | _ => value.display
        let name := match InfoType.ofNumber? number with
          | some t => t.name
          | none => "?"
        alignRight 32 name ++ " (" ++ alignRight 5 (toString number.toNat) ++ ") = " ++ text ++ "\n"
      | _, _ => ""
    let shown : Output := { out := line, err := report result }
    shown.andThen (showValues s rest)

/-- Connects and prints one value, or all of them. -/
def info (s : Session τ) (c : Configuration) (number : Option UInt16) : Output :=
  withSession s c fun s =>
    showValues s (match number with
      | some n => [n]
      | none => InfoType.all.map InfoType.number)

/-- Runs a command over a transport. -/
def run [Yaml.Library] (transport : τ) (elapsed : String) (o : Options) (command : Command) :
    Output :=
  match o.configuration with
  | .error e => failure (errorDetail e)
  | .ok c =>
    let s : Session τ := { handle := (({} : HandleSource).drawSession).1, transport }
    match command with
    | .config => showConfiguration c
    | .ping => ping s c elapsed
    | .info number => info s c number

/-! ## Arguments -/

/-- What the arguments of the command line say. -/
structure Arguments where
  connect : Option String := none
  dsn : Option String := none
  file : Option String := none
  overrides : Bool := false
  command : Option Command := none
  deriving DecidableEq, Repr

/-- Reads the arguments of the command line. -/
def Arguments.read? (a : Arguments) : List String → Option Arguments
  | [] => if a.command.isSome then some a else none
  | "--connect" :: v :: rest => read? { a with connect := some v } rest
  | "-c" :: v :: rest => read? { a with connect := some v } rest
  | "--dsn" :: v :: rest => read? { a with dsn := some v } rest
  | "-d" :: v :: rest => read? { a with dsn := some v } rest
  | "--dsn-file" :: v :: rest => read? { a with file := some v } rest
  | "--env-overrides" :: rest => read? { a with overrides := true } rest
  | ["ping"] => some { a with command := some .ping }
  | ["config"] => some { a with command := some .config }
  | ["info"] => some { a with command := some (.info none) }
  | ["info", n] =>
    (Text.readUInt16 n.toList).map fun n => { a with command := some (.info (some n)) }
  | _ => none

end SqlSession.Probe
