/-!
# Tallies of runs

Counts of what became of the outputs of one run, or of several runs added up. Counts are 32-bit
numbers and wrap around.
-/

namespace Forwarder

/-- Counts over one or more runs. -/
structure Tally where
  /-- The runs that are counted. -/
  runs : UInt32
  /-- The outputs that were new. -/
  new : UInt32
  /-- The outputs that were made again after a change. -/
  modified : UInt32
  /-- The outputs that were taken from the cache. -/
  cached : UInt32
  /-- The outputs that were removed. -/
  removed : UInt32
  /-- The candidates that failed. -/
  failed : UInt32
  /-- The candidates that were abandoned. -/
  cancelled : UInt32
  deriving DecidableEq, Repr

namespace Tally

/-- Nothing counted yet. -/
def zero : Tally := ⟨0, 0, 0, 0, 0, 0, 0⟩

/-- One run in which nothing has happened yet. -/
def oneRun : Tally := { zero with runs := 1 }

/-- The counts of both. -/
def merge (a b : Tally) : Tally where
  runs := a.runs + b.runs
  new := a.new + b.new
  modified := a.modified + b.modified
  cached := a.cached + b.cached
  removed := a.removed + b.removed
  failed := a.failed + b.failed
  cancelled := a.cancelled + b.cancelled

/-- The outputs that exist once the counted candidates have been dealt with. -/
def produced (tally : Tally) : UInt32 := tally.new + tally.modified + tally.cached

/-- The share of the produced outputs that came from the cache, unless there are none. -/
def reuseRate? (tally : Tally) : Option Float :=
  if tally.produced = 0 then none
  else some (tally.cached.toFloat / tally.produced.toFloat)

/-- Whether any output changed. -/
def hasChanges (tally : Tally) : Bool := 0 < tally.new + tally.modified + tally.removed

end Tally

end Forwarder
