import Forwarder.Analysis
import Forwarder.Snapshot.Json

/-!
# Analysis reports as JSON

How diagnostics and reports are read and written.
-/

namespace Forwarder

open Json

/-- The severities, by name. -/
def Severity.choices : List (String × Severity) := [("warning", .warning), ("error", .error)]

/-- The fields of a diagnostic. -/
def Diagnostic.fieldNames : List String :=
  ["id", "severity", "title", "category", "message", "location"]

/-- Reads a diagnostic. -/
def Diagnostic.reader : Reader Diagnostic := fun access value => do
  match ← readSlots fieldNames access value with
  | (inside, [id, severity, title, category, message, location]) =>
    let id ← id.required readString inside
    let severity ← severity.required (readChoice Severity.choices) inside
    let title ← title.required readString inside
    let category ← category.required readString inside
    let message ← message.required readString inside
    let location ← location.required Location.reader inside
    return { id, severity, title, category, message, location }
  | _ => none

/-- The JSON form of a diagnostic. -/
def Diagnostic.toJson (diagnostic : Diagnostic) : Json :=
  .object [("id", .string diagnostic.id), ("severity", .string diagnostic.severity.name),
    ("title", .string diagnostic.title), ("category", .string diagnostic.category),
    ("message", .string diagnostic.message), ("location", diagnostic.location.toJson)]

/-- Reads a report. -/
def Analysis.reader : Reader Analysis := fun access value => do
  match ← readSlots ["analyzed", "diagnostics"] access value with
  | (inside, [typeCount, diagnostics]) =>
    let typeCount ← typeCount.required readUInt64 inside
    let diagnostics ← diagnostics.required (readList Diagnostic.reader) inside
    return { typeCount, diagnostics }
  | _ => none

/-- The JSON form of a report. -/
def Analysis.toJson (report : Analysis) : Json :=
  .object [("analyzed", nat report.typeCount.toNat),
    ("diagnostics", .array (report.diagnostics.map (·.toJson)))]

end Forwarder
