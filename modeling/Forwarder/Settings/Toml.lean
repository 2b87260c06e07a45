import Forwarder.Settings.Json
import Forwarder.Toml

/-!
# Settings files

Settings are written as a TOML document that gives texts to some of them. An empty document leaves
all of them at their defaults.
-/

namespace Forwarder.Settings

/-- The settings that a document gives, unless it is malformed or has an unknown name. -/
def ofToml? (document : String) : Option Settings := do
  let pairs ← Toml.parse? document
  if pairs.all (fieldNames.contains ·.1) then
    return {
      markerScope := (pairs.lookup "marker_namespace").getD default.markerScope
      markerName := (pairs.lookup "marker_name").getD default.markerName
      accessorStem := (pairs.lookup "accessor_prefix").getD default.accessorStem
      unitSuffix := (pairs.lookup "hint_extension").getD default.unitSuffix }
  else none

/-- The acceptable settings that a document gives. -/
def ofToml (document : String) : Except Failure Settings :=
  match ofToml? document with
  | none => .error (.configuration "Invalid configuration")
  | some settings => do
    settings.validate
    return settings

end Forwarder.Settings
