import Forwarder.Decorator.Json
import Forwarder.Session.Report

/-!
# Reports of runs as JSON

How source units, tallies and reports of runs are read and written.
-/

namespace Forwarder

open Json

/-- Reads a source unit. -/
def SourceUnit.reader : Reader SourceUnit := fun access value => do
  match ← readSlots ["hint_name", "content"] access value with
  | (inside, [name, text]) =>
    let name ← name.required readString inside
    let text ← text.required readString inside
    return { name, text }
  | _ => none

/-- The JSON form of a source unit. -/
def SourceUnit.toJson (unit : SourceUnit) : Json :=
  .object [("hint_name", .string unit.name), ("content", .string unit.text)]

/-- The fields of a tally. -/
def Tally.fieldNames : List String :=
  ["runs", "new", "modified", "cached", "removed", "failed", "cancelled"]

/-- Reads a tally. -/
def Tally.reader : Reader Tally := fun access value => do
  match ← readSlots fieldNames access value with
  | (inside, [runs, new, modified, cached, removed, failed, cancelled]) =>
    let runs ← runs.required readUInt32 inside
    let new ← new.required readUInt32 inside
    let modified ← modified.required readUInt32 inside
    let cached ← cached.required readUInt32 inside
    let removed ← removed.required readUInt32 inside
    let failed ← failed.required readUInt32 inside
    let cancelled ← cancelled.required readUInt32 inside
    return { runs, new, modified, cached, removed, failed, cancelled }
  | _ => none

/-- The JSON form of a tally. -/
def Tally.toJson (tally : Tally) : Json :=
  .object [("runs", nat tally.runs.toNat), ("new", nat tally.new.toNat),
    ("modified", nat tally.modified.toNat), ("cached", nat tally.cached.toNat),
    ("removed", nat tally.removed.toNat), ("failed", nat tally.failed.toNat),
    ("cancelled", nat tally.cancelled.toNat)]

/-- The statuses, by name. -/
def UnitStatus.choices : List (String × UnitStatus) :=
  [("new", .new), ("modified", .modified), ("cached", .cached), ("removed", .removed)]

/-- The fields of a reported output. -/
def ReportedUnit.fieldNames : List String :=
  ["target", "hint_name", "reason", "source_text", "fingerprint"]

/-- Reads a reported output. -/
def ReportedUnit.reader : Reader ReportedUnit := fun access value => do
  match ← readSlots fieldNames access value with
  | (inside, [target, name, status, text, fingerprint]) =>
    let target ← target.required Target.reader inside
    let name ← name.required readString inside
    let status ← status.required (readChoice UnitStatus.choices) inside
    let text ← text.required readString inside
    let fingerprint ← fingerprint.required readString inside
    return { target, name, status, text, fingerprint }
  | _ => none

/-- The JSON form of a reported output. -/
def ReportedUnit.toJson (output : ReportedUnit) : Json :=
  .object [("target", output.target.toJson), ("hint_name", .string output.name),
    ("reason", .string output.status.name), ("source_text", .string output.text),
    ("fingerprint", .string output.fingerprint)]

/-- Reads a failure of a candidate. -/
def FailedTarget.reader : Reader FailedTarget := fun access value => do
  match ← readSlots ["target", "message"] access value with
  | (inside, [target, message]) =>
    let target ← target.required Target.reader inside
    let message ← message.required readString inside
    return { target, message }
  | _ => none

/-- The JSON form of a failure of a candidate. -/
def FailedTarget.toJson (failure : FailedTarget) : Json :=
  .object [("target", failure.target.toJson), ("message", .string failure.message)]

/-- Reads the report of a run. -/
def RunReport.reader : Reader RunReport := fun access value => do
  match ← readSlots ["marker", "tracked", "failures", "stats"] access value with
  | (inside, [marker, outputs, failures, tally]) =>
    let marker ← marker.optional SourceUnit.reader inside
    let outputs ← outputs.required (readList ReportedUnit.reader) inside
    let failures ← failures.required (readList FailedTarget.reader) inside
    let tally ← tally.required Tally.reader inside
    return { marker, outputs, failures, tally }
  | _ => none

/-- The JSON form of the report of a run. -/
def RunReport.toJson (result : RunReport) : Json :=
  .object [("marker", result.marker.elim .null (·.toJson)),
    ("tracked", .array (result.outputs.map (·.toJson))),
    ("failures", .array (result.failures.map (·.toJson))), ("stats", result.tally.toJson)]

end Forwarder
