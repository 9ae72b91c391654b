/-!
# Configuration errors

Why a connection string, a value, a data source or its file cannot be used.
-/

namespace SqlSession

/-- Why a file cannot be read or written. -/
inductive FileFault where
  /-- The system refused, with its error number, the kind of the error and a text. -/
  | system (number : Nat) (kind text : String)
  /-- The contents are not UTF-8. -/
  | notText
  deriving DecidableEq, Repr

namespace FileFault

/-- There is no such file. -/
def notFound : FileFault := .system 2 "NotFound" "No such file or directory"

/-- The path names a directory. -/
def isDirectory : FileFault := .system 21 "IsADirectory" "Is a directory"

/-- The text shown when contents are not UTF-8. -/
def notTextMessage : String := "stream did not contain valid UTF-8"

/-- The text shown for a file fault. -/
def message : FileFault → String
  | system number _ text => text ++ " (os error " ++ toString number ++ ")"
  | notText => notTextMessage

end FileFault

/-- A file that does not define data sources, and what its reader says is wrong with it. -/
structure MalformedFile where
  path : String
  complaint : String
  deriving DecidableEq, Repr

/-- Why a configuration cannot be built or used. -/
inductive ConfigError where
  /-- A file cannot be read or written. -/
  | file (path : String) (fault : FileFault)
  /-- A file does not define data sources. -/
  | malformedFile (f : MalformedFile)
  /-- A connection string is not a list of attributes; the text says where. -/
  | invalidSyntax (near : String)
  /-- An attribute cannot have a value. -/
  | invalidValue (key value : String)
  /-- A connection string names a data source that is not defined. -/
  | unknownDataSource (name : String)
  deriving DecidableEq, Repr

/-- The text shown for a configuration error. -/
def ConfigError.message : ConfigError → String
  | .file path fault => "failed to read DSN file '" ++ path ++ "': " ++ fault.message
  | .malformedFile f => "failed to parse DSN file '" ++ f.path ++ "': " ++ f.complaint
  | .invalidSyntax near => "invalid connection string near '" ++ near ++ "'"
  | .invalidValue key value => "invalid value '" ++ value ++ "' for attribute " ++ key
  | .unknownDataSource name => "data source '" ++ name ++ "' is not defined"

end SqlSession
