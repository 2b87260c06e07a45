import Forwarder.Decorator.Derivation
import Forwarder.Session.Report
import Forwarder.Source.Generation
import Forwarder.TargetMap

/-!
# Incremental sessions

A session lives across runs. Each run describes every marked type as a decorator, compares it with
the one cached for the same target, and generates source only where they differ. Outputs whose
target no longer has a decorator are removed.

A run has two phases. In the first each candidate is examined on its own, and the cache is only
looked at. In the second the outcomes are committed to the cache in the order of declaration. A
candidate that fails or is abandoned keeps what the cache has for it.
-/

namespace Forwarder

/-- What the cache holds for a target. -/
structure CachedOutput where
  /-- The decorator that the output was made from. -/
  decorator : Decorator
  /-- The output. -/
  unit : SourceUnit
  /-- The fingerprint of its text. -/
  fingerprint : String
  deriving DecidableEq, Repr

/-- The output of an entry, as it is reported with a status. -/
def CachedOutput.reported (entry : CachedOutput) (status : UnitStatus) : ReportedUnit where
  target := entry.decorator.target
  name := entry.unit.name
  status := status
  text := entry.unit.text
  fingerprint := entry.fingerprint

/-- The outputs by target. -/
abbrev Cache := TargetMap CachedOutput

/-- An incremental generator. -/
structure Session where
  /-- The settings it runs with. -/
  settings : Settings
  /-- The outputs of earlier runs. -/
  cache : Cache
  /-- Whether the marker attribute has been emitted. -/
  markerEmitted : Bool
  /-- The counts of all runs. -/
  totals : Tally

namespace Session

/-- A session that has not run yet. -/
def start (settings : Settings) : Session :=
  { settings, cache := .empty, markerEmitted := false, totals := .zero }

/-- A session that has not run yet, if the settings are acceptable. -/
def create (settings : Settings) : Except Failure Session := do
  settings.validate
  return start settings

/-- The cached output of a target. -/
def cachedUnit? (session : Session) (target : Target) : Option SourceUnit :=
  (session.cache.get? target).map (·.unit)

/-! ## Examining candidates -/

/-- What became of a candidate. -/
inductive Outcome where
  /-- Its preconditions are not met. -/
  | nothing
  /-- Its decorator is the cached one. -/
  | unchanged
  /-- It has new output. -/
  | generated (entry : CachedOutput)
  /-- It was abandoned. -/
  | cancelled
  /-- It failed. -/
  | failed (failure : Failure)

/-- Those of several types that are the first of their targets. `seen` holds the targets before. -/
def distinctTargets (seen : List Target) : List TypeDecl → List TypeDecl
  | [] => []
  | type :: rest =>
    if type.target ∈ seen then distinctTargets seen rest
    else type :: distinctTargets (type.target :: seen) rest

/-- The types to examine: the marked ones, one for each target. -/
def candidates (settings : Settings) (snapshot : Snapshot) : List TypeDecl :=
  distinctTargets [] (snapshot.marked settings.markerAttribute)

/-- Generates the output of a decorator that differs from the cached one. -/
def generateEntry (settings : Settings) (decorator : Decorator) : Outcome :=
  match decorator.sourceUnit settings with
  | .ok unit => .generated { decorator, unit, fingerprint := unit.fingerprint }
  | .error failure => .failed failure

/-- Examines a candidate, polling the token. -/
def examine (settings : Settings) (cache : Cache) (snapshot : Snapshot) (type : TypeDecl)
    (token : Cancellation) : Outcome × Cancellation :=
  match (Decorator.derive snapshot settings type).start token with
  | (.error failure, token) =>
    (if failure.isCancellation then .cancelled else .failed failure, token)
  | (.ok none, token) => (.nothing, token)
  | (.ok (some decorator), token) =>
    if (cache.get? type.target).map (·.decorator) = some decorator then (.unchanged, token)
    else if token.cancelled then (.cancelled, token)
    else (generateEntry settings decorator, token)

/-- Examines candidates one after the other, and gives each with its outcome. -/
def examineAll (settings : Settings) (cache : Cache) (snapshot : Snapshot) :
    List TypeDecl → Cancellation → List (Target × Outcome)
  | [], _ => []
  | type :: rest, token =>
    let (outcome, token) := examine settings cache snapshot type token
    (type.target, outcome) :: examineAll settings cache snapshot rest token

/-! ## Committing outcomes -/

/-- How far a run has got. -/
structure Progress where
  /-- The cache so far. -/
  cache : Cache
  /-- The targets that are to stay in it. -/
  live : List Target
  /-- The report so far. -/
  result : RunReport

/-- Reports an output. -/
def Progress.track (progress : Progress) (output : ReportedUnit) : Progress :=
  { progress with result := { progress.result with
      outputs := progress.result.outputs ++ [output] } }

/-- Counts something. -/
def Progress.count (progress : Progress) (counts : Tally) : Progress :=
  { progress with result := { progress.result with tally := progress.result.tally.merge counts } }

/-- Keeps a target in the cache. -/
def Progress.keep (progress : Progress) (target : Target) : Progress :=
  { progress with live := target :: progress.live }

/-- The counts of a single output, by its status. -/
def countOf : UnitStatus → Tally
  | .new => { Tally.zero with new := 1 }
  | .modified => { Tally.zero with modified := 1 }
  | .cached => { Tally.zero with cached := 1 }
  | .removed => { Tally.zero with removed := 1 }

/-- Reports and counts the output of an entry. -/
def Progress.report (progress : Progress) (entry : CachedOutput) (status : UnitStatus) : Progress :=
  (progress.track (entry.reported status)).count (countOf status)

/-- Commits the outcome of a candidate. -/
def commit (progress : Progress) (target : Target) : Outcome → Progress
  | .nothing => progress
  | .unchanged =>
    match progress.cache.get? target with
    | some entry => (progress.report entry .cached).keep target
    | none => progress.keep target
  | .generated entry =>
    let status := if progress.cache.contains target then .modified else .new
    let progress := (progress.report entry status).keep target
    { progress with cache := progress.cache.insert target entry }
  | .cancelled => (progress.count { Tally.zero with cancelled := 1 }).keep target
  | .failed failure =>
    let progress := (progress.count { Tally.zero with failed := 1 }).keep target
    { progress with result := { progress.result with
        failures := progress.result.failures ++ [⟨target, failure.message⟩] } }

/-- Commits outcomes in their order. -/
def commitAll (progress : Progress) : List (Target × Outcome) → Progress
  | [] => progress
  | (target, outcome) :: rest => commitAll (commit progress target outcome) rest

/-- Reports the entries of a list as removed. -/
def reportRemoved (progress : Progress) : List (Target × CachedOutput) → Progress
  | [] => progress
  | (_, entry) :: rest => reportRemoved (progress.report entry .removed) rest

/-- Removes the targets that are not to stay, in their order. -/
def removeStale (progress : Progress) : Progress :=
  let stale := progress.cache.entries.filter (·.1 ∉ progress.live)
  { reportRemoved progress stale with
    cache := progress.cache.filter (· ∈ progress.live) }

/-! ## Running -/

/-- The unit of the marker attribute, if it has not been emitted yet. -/
def markerToEmit (session : Session) : Except Failure (Option SourceUnit) :=
  if session.markerEmitted then .ok none
  else some <$> session.settings.markerUnit

/-- Runs over a snapshot. A run fails as a whole only if the marker attribute cannot be made. -/
def run (session : Session) (snapshot : Snapshot) (token : Cancellation) :
    Except Failure (RunReport × Session) := do
  let marker ← session.markerToEmit
  let outcomes := examineAll session.settings session.cache snapshot
    (candidates session.settings snapshot) token
  let progress := removeStale (commitAll
    { cache := session.cache, live := []
      result := { marker, outputs := [], failures := [], tally := .oneRun } } outcomes)
  return (progress.result,
    { session with
      cache := progress.cache, markerEmitted := true
      totals := session.totals.merge progress.result.tally })

end Session

end Forwarder
