import SqlSession.Probe
import SqlSession.Transport.Offline
/-!
# The command line of the probe

Reads the arguments, the environment and the data source file, and prints what the probe gives.
There is no network here, so a session fails to connect.
-/

namespace SqlSession.Main

/-- What a failure to read a file comes to. -/
def faultOf : IO.Error → FileFault
  | .noFileOrDirectory _ _ _ => .notFound
  | .inappropriateType _ _ _ => .isDirectory
  | .permissionDenied _ _ _ => .system 13 "PermissionDenied" "Permission denied"
  | e => .system 5 "Uncategorized" (toString e)

/-- Reads a file. -/
def readFile (path : String) : IO (Except FileFault Bytes) := do
  try
    let bytes ← IO.FS.readBinFile path
    return .ok bytes.toList
  catch e => return .error (faultOf e)

/-- The text printed for arguments that make no sense. -/
def usage : String :=
  "Usage: gridlink [--connect <CONNECT>] [--dsn <DSN>] [--dsn-file <DSN_FILE>] " ++
    "[--env-overrides] <COMMAND>\n"

end SqlSession.Main

open SqlSession in
/-- Runs the probe. -/
def main (args : List String) : IO UInt32 := do
  match Probe.Arguments.read? {} args with
  | none =>
    (← IO.getStderr).putStr Main.usage
    return 2
  | some a =>
    let connect ← match a.connect with
      | some s => pure s
      | none => pure ((← IO.getEnv "GRIDLINK_CONNECT").getD "")
    let path ← match a.file with
      | some path => pure (some path)
      | none => IO.getEnv "GRIDLINK_DSN_FILE"
    let file ← path.mapM fun path => do return (path, ← Main.readFile path)
    let overrides : Overrides :=
      { address := ← IO.getEnv "GRIDLINK_ADDRESS"
        schema := ← IO.getEnv "GRIDLINK_SCHEMA"
        protocolVersion := ← IO.getEnv "GRIDLINK_PROTOCOL_VERSION" }
    let options : Probe.Options :=
      { connect, dsn := a.dsn, file, overrides := if a.overrides then some overrides else none }
    let output := Probe.run ({} : OfflineTransport) "0.0ns" options (a.command.getD .config)
    (← IO.getStdout).putStr output.out
    (← IO.getStderr).putStr output.err
    return output.code.toUInt32
