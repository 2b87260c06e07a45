import Forwarder.Files.Path

/-!
# File operations

The operations on files that commands are made of, over whatever keeps the files, and the ways in
which they fail. On top of them: writing a file by way of a temporary one, so that no reader ever
sees half of it, and removing a file that need not exist.
-/

namespace Forwarder

/-- Why a file operation failed. -/
inductive FileFault where
  /-- There is no such file or directory. -/
  | notFound
  /-- There is something at that path already. -/
  | alreadyExists
  /-- Something along the path is not a directory. -/
  | notDirectory
  /-- There is a directory where a file is needed. -/
  | isDirectory
  /-- There is something at that path which cannot be replaced. -/
  | busy
  /-- A name or the whole path is too long. -/
  | nameTooLong
  /-- Something else, in the words of the system. -/
  | other (message : String)
  deriving DecidableEq, Repr

/-- The wording of a fault. -/
def FileFault.message : FileFault → String
  | .notFound => "No such file or directory (os error 2)"
  | .alreadyExists => "File exists (os error 17)"
  | .notDirectory => "Not a directory (os error 20)"
  | .isDirectory => "Is a directory (os error 21)"
  | .busy => "Device or resource busy (os error 16)"
  | .nameTooLong => "File name too long (os error 36)"
  | .other message => message

/-- A place that keeps files. -/
class FileStore (m : Type → Type) where
  /-- The text of a file. -/
  readText : String → m (Except FileFault String)
  /-- Whether there is anything at a path. -/
  isPresent : String → m Bool
  /-- Makes a directory and those above it, as far as they are missing. -/
  createDirectories : String → m (Except FileFault Unit)
  /-- Makes a file empty, a new one if there is none. -/
  createFile : String → m (Except FileFault Unit)
  /-- Puts a text into a file that has been made empty. -/
  writeText : String → String → m (Except FileFault Unit)
  /-- Moves a file over another path. -/
  rename : String → String → m (Except FileFault Unit)
  /-- Removes a file. -/
  removeFile : String → m (Except FileFault Unit)

end Forwarder
