import Forwarder.Digest
import Forwarder.Target
import Forwarder.Text.Lines

/-!
# Source units

A source unit is one piece of emitted source text with the name that it is emitted under.
-/

namespace Forwarder

/-- An emitted piece of source text. -/
structure SourceUnit where
  /-- The name of the unit. -/
  name : UnitName
  /-- The source text. -/
  text : String
  deriving DecidableEq, Repr

/-- The lines of a unit. -/
def SourceUnit.lines (unit : SourceUnit) : List String := Text.lines unit.text

/-- The fingerprint of a unit's text. -/
def SourceUnit.fingerprint (unit : SourceUnit) : String := Forwarder.fingerprint unit.text

end Forwarder
