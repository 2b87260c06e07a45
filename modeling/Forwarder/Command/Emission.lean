import Forwarder.Command.Storage
import Forwarder.Session
import Forwarder.Session.Json

/-!
# Emission into a directory

One session runs over the given snapshots, one pass for each, and after every pass the directory
is brought up to date: the marker attribute is written on the first pass, new and modified units are
written, units from the cache are restored if they are missing, and removed units are deleted.
-/

namespace Forwarder

/-- A unit that a pass has dealt with. -/
structure UnitChange where
  /-- Its name. -/
  unitName : UnitName
  /-- What the pass did to it. -/
  status : UnitStatus
  /-- The fingerprint of its text. -/
  fingerprint : String
  deriving DecidableEq, Repr

/-- The summary of a pass. -/
structure PassReport where
  /-- The path of the snapshot. -/
  input : String
  /-- The name of the marker's unit, on the first pass. -/
  marker : Option UnitName
  /-- What happened to units. -/
  outputs : List UnitChange
  /-- The failures, each behind its target. -/
  failures : List String
  /-- The counts of the pass. -/
  tally : Tally
  deriving DecidableEq, Repr

/-- The report of a run as the summary of a pass. -/
def RunReport.summary (input : String) (result : RunReport) : PassReport where
  input := input
  marker := result.marker.map (·.name)
  outputs := result.outputs.map fun output => ⟨output.name, output.status, output.fingerprint⟩
  failures := result.failures.map fun failure => failure.target.display ++ ": " ++ failure.message
  tally := result.tally

section

open Json

/-- The JSON form of a change. -/
def UnitChange.toJson (change : UnitChange) : Json :=
  .object [("hint_name", .string change.unitName), ("reason", .string change.status.name),
    ("fingerprint", .string change.fingerprint)]

/-- The JSON form of a summary. -/
def PassReport.toJson (summary : PassReport) : Json :=
  .object [("input", .string summary.input), ("marker", optionalString summary.marker),
    ("outputs", .array (summary.outputs.map (·.toJson))), ("failures", strings summary.failures),
    ("stats", summary.tally.toJson)]

end

open CommandT FileStore

variable {m : Type → Type} [Monad m] [FileStore m]

/-- Brings a directory up to date with an output. -/
def applyOutput (directory : String) (output : ReportedUnit) : CommandT m Unit := do
  let path := Path.join directory output.name
  match output.status with
  | .new | .modified => replaceFile path output.text
  | .cached => unless ← (isPresent path : m Bool) do replaceFile path output.text
  | .removed => let _ ← removeIfPresent path

/-- Brings a directory up to date with outputs, one after the other. -/
def applyOutputs (directory : String) : List ReportedUnit → CommandT m Unit
  | [] => return
  | output :: rest => do
    applyOutput directory output
    applyOutputs directory rest

/-- Brings a directory up to date with the report of a run. -/
def applyReport (directory : String) (result : RunReport) : CommandT m Unit := do
  match result.marker with
  | some marker => replaceFile (Path.join directory marker.name) marker.text
  | none => pure ()
  applyOutputs directory result.outputs

/-- Makes one pass over the snapshot of a file. -/
def emitPass (directory : String) (session : Session) (input : String) :
    CommandT m (PassReport × Session) := do
  let snapshot ← loadSnapshot input
  let (result, session) ← within ("generation failed for " ++ input)
    (ofFailure (session.run snapshot .fresh))
  applyReport directory result
  return (result.summary input, session)

/-- Makes passes over the snapshots of files, one after the other. -/
def emitPasses (directory : String) (session : Session) :
    List String → CommandT m (List PassReport × Session)
  | [] => return ([], session)
  | input :: rest => do
    let (summary, session) ← emitPass directory session input
    let (summaries, session) ← emitPasses directory session rest
    return (summary :: summaries, session)

/-- Generates into a directory. Gives the summaries of the passes, and whether no candidate
failed. -/
def emitInto (settings : Settings) (directory : String) (inputs : List String) :
    CommandT m (List PassReport × Bool) := do
  let session ← within "failed to create generator pipeline" (ofFailure (Session.create settings))
  within ("failed to create output directory " ++ directory)
    (ofFault (createDirectories directory))
  let (summaries, session) ← emitPasses directory session inputs
  return (summaries, session.totals.failed = 0)

end Forwarder
