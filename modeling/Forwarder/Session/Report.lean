import Forwarder.Session.Tally
import Forwarder.Source

/-!
# Reports of runs

What one run of a session reports: the marker's source unit on the first run, every output with
its status, the candidates that failed, and the counts of all these.
-/

namespace Forwarder

/-- What a run did to an output. -/
inductive UnitStatus where
  /-- It is the first output of its target. -/
  | new
  /-- Its decorator has changed, and it was made again. -/
  | modified
  /-- Its decorator has not changed, and it was taken from the cache. -/
  | cached
  /-- Its target has no output any more. -/
  | removed
  deriving DecidableEq, Repr

/-- The name of a status. -/
def UnitStatus.name : UnitStatus → String
  | .new => "new"
  | .modified => "modified"
  | .cached => "cached"
  | .removed => "removed"

/-- An output of a run. -/
structure ReportedUnit where
  /-- The type that it is generated for. -/
  target : Target
  /-- The name of its unit. -/
  name : UnitName
  /-- What the run did to it. -/
  status : UnitStatus
  /-- Its text; for a removed output, the last one. -/
  text : String
  /-- The fingerprint of its text. -/
  fingerprint : String
  deriving DecidableEq, Repr

/-- A candidate that failed. -/
structure FailedTarget where
  /-- The type that failed. -/
  target : Target
  /-- Why it failed. -/
  message : String
  deriving DecidableEq, Repr

/-- What a run reports. -/
structure RunReport where
  /-- The unit of the marker attribute, on the first run only. -/
  marker : Option SourceUnit
  /-- The outputs: those of candidates in the order of declaration, then those removed. -/
  outputs : List ReportedUnit
  /-- The candidates that failed. -/
  failures : List FailedTarget
  /-- The counts of the run. -/
  tally : Tally
  deriving DecidableEq, Repr

namespace RunReport

/-- The first output with a unit name. -/
def findUnit? (result : RunReport) (name : UnitName) : Option ReportedUnit :=
  result.outputs.find? (·.name = name)

/-- The outputs that are reported with a status. -/
def withStatus (result : RunReport) (status : UnitStatus) : List ReportedUnit :=
  result.outputs.filter (·.status = status)

/-- The source units that exist after the run. -/
def units (result : RunReport) : List SourceUnit :=
  result.marker.toList ++
    (result.outputs.filter (·.status ≠ .removed)).map fun output => ⟨output.name, output.text⟩

end RunReport

end Forwarder
