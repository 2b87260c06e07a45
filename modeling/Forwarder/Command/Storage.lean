import Forwarder.Command.Fault
import Forwarder.Json.Document
import Forwarder.Settings.Toml
import Forwarder.Snapshot.Json

/-!
# What commands keep in files

Commands load settings and snapshots from files and write source units into files. A file is
written by way of a temporary one beside it, so that no reader ever finds half of it.
-/

namespace Forwarder

open CommandT FileStore

variable {m : Type → Type} [Monad m] [FileStore m]

/-- Loads settings from a file. -/
def loadSettings (path : String) : CommandT m Settings :=
  within ("failed to load configuration from " ++ path) do
    match ← readText (m := m) path with
    | .ok document => ofFailure (Settings.ofToml document)
    | .error fault =>
      ofFailure (.error (.configuration ("Failed to read " ++ path ++ ": " ++ fault.message)))

/-- Loads settings from a file if there is one, and else takes the defaults. -/
def loadSettingsOrDefault : Option String → CommandT m Settings
  | some path => loadSettings path
  | none => return .default

/-- Loads a snapshot and checks it. -/
def loadSnapshot (path : String) : CommandT m Snapshot := do
  let text ← within ("failed to read snapshot " ++ path) (ofFault (readText path))
  let snapshot ← within ("failed to parse snapshot " ++ path)
    (ofFailure (Json.ofDocument Snapshot.reader text))
  within ("invalid snapshot " ++ path) (ofFailure snapshot.validate)
  return snapshot

/-- Writes a file by way of a temporary one. -/
def replaceFile (path text : String) : CommandT m Unit := do
  let temporary := Path.temporary path
  within ("failed to create temp file " ++ temporary) (ofFault (createFile temporary))
  within ("failed to write " ++ temporary) (ofFault (writeText temporary text))
  within ("failed to rename " ++ temporary ++ " to " ++ path) (ofFault (rename temporary path))

/-- Removes a file unless there is none, and tells whether there was one. -/
def removeIfPresent (path : String) : CommandT m Bool :=
  within ("failed to remove " ++ path) do
    match ← removeFile (m := m) path with
    | .ok () => return true
    | .error .notFound => return false
    | .error fault => throw ⟨[], .fault fault⟩

end Forwarder
