import Forwarder.Failure
import Forwarder.Target
import Forwarder.Text.Identifier

/-!
# Settings

What the generator can be told: which marker attribute to look for, how accessors are named and how
emitted units are named. Every setting has a default. Settings that end up in generated source have
to be identifiers, dotted ones for the namespace, and the suffix of unit names has to be a dot with
something behind it.
-/

namespace Forwarder

open Text

/-- The settings of a generator. -/
structure Settings where
  /-- The namespace that the marker attribute is declared in. -/
  markerScope : String
  /-- The type name of the marker attribute. -/
  markerName : String
  /-- What the name of every accessor begins with. -/
  accessorStem : String
  /-- What the name of every emitted unit ends with. -/
  unitSuffix : String
  deriving DecidableEq, Repr

namespace Settings

/-- The settings that apply where nothing else is said. -/
def default : Settings where
  markerScope := "Decorgen"
  markerName := "GenericDecoratorAttribute"
  accessorStem := "GetInner"
  unitSuffix := ".g.cs"

instance : Inhabited Settings := ⟨default⟩

/-- Whether a text can end the names of units. -/
def isUnitSuffix (text : String) : Bool :=
  match text.toList with
  | '.' :: _ :: _ => true
  | _ => false

/-- Whether settings are acceptable. -/
def Valid (settings : Settings) : Prop :=
  isDottedIdentifier settings.markerScope ∧ isIdentifier settings.markerName ∧
    isIdentifier settings.accessorStem ∧ isUnitSuffix settings.unitSuffix

instance (settings : Settings) : Decidable settings.Valid := by
  unfold Valid
  infer_instance

/-- Checks settings, naming the first field that is not acceptable. -/
def validate (settings : Settings) : Except Failure Unit :=
  if !isDottedIdentifier settings.markerScope then
    .error (.validation "marker_namespace" "must be a dotted identifier")
  else if !isIdentifier settings.markerName then
    .error (.validation "marker_name" "must be an identifier")
  else if !isIdentifier settings.accessorStem then
    .error (.validation "accessor_prefix" "must be an identifier")
  else if !isUnitSuffix settings.unitSuffix then
    .error (.validation "hint_extension" "must start with '.' and be non-empty")
  else .ok ()

/-- The full name of the marker attribute, without the global alias. -/
def markerAttribute (settings : Settings) : String :=
  settings.markerScope ++ "." ++ settings.markerName

/-- The name of the unit that declares the marker attribute. -/
def markerUnitName (settings : Settings) : UnitName := settings.markerName ++ settings.unitSuffix

/-- Validation accepts exactly the acceptable settings. -/
theorem validate_eq_ok_iff (settings : Settings) : settings.validate = .ok () ↔ settings.Valid := by
  unfold validate Valid
  cases isDottedIdentifier settings.markerScope <;> cases isIdentifier settings.markerName <;>
    cases isIdentifier settings.accessorStem <;> cases isUnitSuffix settings.unitSuffix <;> simp

end Settings

end Forwarder
