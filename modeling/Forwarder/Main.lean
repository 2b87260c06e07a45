import Forwarder.Command.Run

/-!
# The command line program

Reads the command line, runs the command on the files of the system, prints what it leaves behind,
and ends with its exit code.
-/

namespace Forwarder

/-- A fault of the system as a fault of a file operation. -/
def FileFault.ofSystem : IO.Error → FileFault
  | .noFileOrDirectory .. => .notFound
  | .alreadyExists .. => .alreadyExists
  | .inappropriateType _ 20 _ => .notDirectory
  | .inappropriateType _ 21 _ => .isDirectory
  | .invalidArgument _ 36 _ => .nameTooLong
  | .permissionDenied _ code details =>
    .other (details ++ " (os error " ++ toString code ++ ")")
  | error => .other (toString error)

/-- Performs an operation of the system and gives its fault as a value. -/
def attempt {α : Type} (operation : IO α) : IO (Except FileFault α) := do
  match ← operation.toBaseIO with
  | .ok value => return .ok value
  | .error error => return .error (.ofSystem error)

instance : FileStore IO where
  readText path := attempt (IO.FS.readFile path)
  isPresent path := do
    match ← attempt (IO.FS.Handle.mk path .read) with
    | .ok _ => return true
    | .error _ => return false
  createDirectories path := attempt (IO.FS.createDirAll path)
  createFile path := attempt (IO.FS.writeFile path "")
  writeText path text := attempt (IO.FS.writeFile path text)
  rename source target := attempt (IO.FS.rename source target)
  removeFile path := attempt (IO.FS.removeFile path)

/-- The environment variable that can name a settings file. It is called after the namespace that
the marker attribute has by default. -/
def settingsVariable : String := Settings.default.markerScope.toUpper ++ "_CONFIG"

/-- Runs a command line, and gives the exit code. -/
def runLine (arguments : List String) : IO Nat := do
  match CommandLine.parse (← IO.getEnv settingsVariable) arguments with
  | .error stop =>
    match stop with
    | .information => IO.println CommandLine.usage
    | .misuse => IO.eprintln CommandLine.usage
    return stop.exitCode
  | .ok invocation =>
    let color ← (← IO.getStdout).isTty
    match ← (invocation.run color : CommandT IO CommandReport).run with
    | .ok report =>
      IO.print report.output
      return report.exitCode
    | .error fault =>
      IO.eprintln fault.display
      return fault.exitCode

end Forwarder

/-- Runs the program on its arguments. -/
def main (arguments : List String) : IO UInt32 := do
  return (← Forwarder.runLine arguments).toUInt32
