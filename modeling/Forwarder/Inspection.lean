import Forwarder.Decorator.Json
import Forwarder.Decorator.Derivation
import Forwarder.Scopes

/-!
# Inspection

What can be seen in a snapshot: for every marked type the decorator that is derived from it, if
there is one, and the namespaces that its interfaces refer to.
-/

namespace Forwarder

/-- What is shown of a marked type. -/
structure InspectionEntry where
  /-- Its identity. -/
  target : Target
  /-- The name of the unit that its output would have. -/
  unitName : UnitName
  /-- Its description, if the preconditions are met. -/
  decorator : Option Decorator
  /-- The namespaces that those of its interfaces refer to that resolve, sorted. -/
  scopeSet : List String
  deriving DecidableEq, Repr

/-- The namespaces that the interfaces of a type refer to, sorted and without repetitions. -/
def TypeDecl.scopeSet (snapshot : Snapshot) (type : TypeDecl) : List String :=
  sortedSet ((type.interfaces.filterMap snapshot.resolve?).flatMap (·.scopeSet))

/-- The entry of a type. -/
def InspectionEntry.ofType (settings : Settings) (snapshot : Snapshot) (type : TypeDecl) :
    InspectionEntry where
  target := type.target
  unitName := type.target.unitName settings.unitSuffix
  decorator := Decorator.derive? snapshot settings type
  scopeSet := type.scopeSet snapshot

/-- The entries of the marked types of a snapshot, in the order of their declaration. -/
def inspection (settings : Settings) (snapshot : Snapshot) : List InspectionEntry :=
  (snapshot.marked settings.markerAttribute).map (InspectionEntry.ofType settings snapshot)

open Json in
/-- The JSON form of an entry. -/
def InspectionEntry.toJson (entry : InspectionEntry) : Json :=
  .object [("target", .string entry.target.display), ("hint_name", .string entry.unitName),
    ("descriptor", entry.decorator.elim .null (·.toJson)),
    ("namespaces", strings entry.scopeSet)]

end Forwarder
