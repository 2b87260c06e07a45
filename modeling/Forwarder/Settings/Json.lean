import Forwarder.Json.Decode
import Forwarder.Settings

/-!
# Settings as JSON

Settings are a record of four strings, each of which may be left out. Unlike in other records, an
unknown name is refused.
-/

namespace Forwarder.Settings

open Json

/-- The names of the fields. -/
def fieldNames : List String :=
  ["marker_namespace", "marker_name", "accessor_prefix", "hint_extension"]

/-- Reads settings, without asking whether they are acceptable. -/
def reader : Reader Settings := fun access value => do
  guard (onlyNames fieldNames value)
  match ← readSlots fieldNames access value with
  | (inside, [scope, name, stem, suffix]) =>
    let markerScope ← scope.withDefault readString default.markerScope inside
    let markerName ← name.withDefault readString default.markerName inside
    let accessorStem ← stem.withDefault readString default.accessorStem inside
    let unitSuffix ← suffix.withDefault readString default.unitSuffix inside
    return { markerScope, markerName, accessorStem, unitSuffix }
  | _ => none

/-- The JSON form of settings. -/
def toJson (settings : Settings) : Json :=
  .object [("marker_namespace", .string settings.markerScope),
    ("marker_name", .string settings.markerName),
    ("accessor_prefix", .string settings.accessorStem),
    ("hint_extension", .string settings.unitSuffix)]

end Forwarder.Settings
