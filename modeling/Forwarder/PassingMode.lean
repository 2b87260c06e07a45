/-!
# Passing modes

How a parameter takes its argument: by value, or by reference for reading and writing, for writing
only, or for reading only.
-/

namespace Forwarder

/-- How a parameter takes its argument. -/
inductive PassingMode where
  /-- By value. -/
  | value
  /-- By reference, read and written. -/
  | reference
  /-- By reference, written only. -/
  | output
  /-- By reference, read only. -/
  | input
  deriving DecidableEq, Repr

/-- The keyword of a mode, at a declaration and at a call alike. -/
def PassingMode.keyword? : PassingMode → Option String
  | .value => none
  | .reference => some "ref"
  | .output => some "out"
  | .input => some "in"

end Forwarder
