import Forwarder.Proofs.Session.Coherence

/-!
# Incremental runs and runs from scratch

A run that is not cancelled leaves the same cache and reports the same outputs and failures as the
first run of a new session, whatever the session has been through. Only the statuses differ. This
rests on the coherence of the cache: an entry with the decorator of a candidate is the one that the
candidate would generate, and a candidate that fails has no entry that could be kept.
-/

namespace Forwarder

/-- An output with the status it has when it is the first one of its target. -/
def ReportedUnit.asNew (output : ReportedUnit) : ReportedUnit := { output with status := .new }

/-- The outputs that exist after the run. -/
def RunReport.standing (report : RunReport) : List ReportedUnit :=
  report.outputs.filter (·.status ≠ .removed)

namespace Session

variable {settings : Settings} {session : Session}

/-! ## One candidate -/

/-- An outcome comes, given what the cache has for its target, to the same as another one does when
the cache has nothing. -/
structure Outcome.Rebuilds (target : Target) (cached : Option CachedOutput)
    (outcome scratch : Outcome) : Prop where
  /-- They leave the same. -/
  left : outcome.left cached = scratch.left none
  /-- They report the same, up to the status. -/
  output : (outcome.output? cached).map (·.asNew) = scratch.output? none
  /-- They report the same failure. -/
  failure : outcome.failure? target = scratch.failure? target

/-- A candidate whose unit has the name of the marker attribute's has no coherent entry. -/
theorem eq_none_of_failed {target : Target} {decorator : Decorator} {failure : Failure}
    {cached : Option CachedOutput} (hcached : ∀ entry ∈ cached, entry.Coherent settings target)
    (htarget : decorator.target = target) (h : decorator.sourceUnit settings = .error failure) :
    cached = none := by
  rw [Decorator.sourceUnit_eq] at h
  split at h
  · rename_i hname
    cases cached with
    | none => rfl
    | some entry =>
      have hcoherent := hcached entry rfl
      have hheld : entry.unit.name = settings.markerUnitName := by
        rw [hcoherent.name_eq, ← htarget, hname]
      exact absurd hheld hcoherent.name_ne
  · cases h

/-- A settled candidate comes to the same as it would without an entry, if that is coherent. -/
theorem rebuilds_settle (settings : Settings) (snapshot : Snapshot) (type : TypeDecl)
    {cached : Option CachedOutput}
    (hcached : ∀ entry ∈ cached, entry.Coherent settings type.target) :
    Outcome.Rebuilds type.target cached (settle settings snapshot type cached)
      (settle settings snapshot type none) := by
  cases hdecorator : type.decorator? snapshot settings with
  | none =>
    simp only [settle, hdecorator]
    exact ⟨rfl, rfl, rfl⟩
  | some decorator =>
    have htarget := TypeDecl.target_of_decorator? hdecorator
    have hscratch : settle settings snapshot type none = generateEntry settings decorator := by
      simp [settle, hdecorator]
    rw [hscratch]
    by_cases hsame : cached.map (·.decorator) = some decorator
    · -- the entry is served as it is, and it is what would have been generated
      obtain ⟨entry, hentry, rfl⟩ := Option.map_eq_some_iff.1 hsame
      subst hentry
      have hcoherent := hcached entry rfl
      have hgenerated : generateEntry settings entry.decorator = .generated entry := by
        rw [generateEntry, hcoherent.unit_eq]
        simp only
        rw [← hcoherent.eq_of_decorator hcoherent.unit_eq]
      have hunchanged : settle settings snapshot type (some entry) = .unchanged := by
        simp [settle, hdecorator]
      rw [hgenerated, hunchanged]
      exact ⟨rfl, rfl, rfl⟩
    · have hgenerate : settle settings snapshot type cached = generateEntry settings decorator := by
        simp [settle, hdecorator, hsame]
      rw [hgenerate, generateEntry]
      cases hunit : decorator.sourceUnit settings with
      | ok unit => exact ⟨rfl, rfl, rfl⟩
      | error failure =>
        -- what is kept after a failure is nothing
        obtain rfl := eq_none_of_failed hcached htarget hunit
        exact ⟨rfl, rfl, rfl⟩

/-! ## All candidates -/

/-- Looking a target up among types with their outcomes finds the first type with the target. -/
theorem lookup_map_target (types : List TypeDecl) (outcome : TypeDecl → Outcome)
    (target : Target) :
    (types.map fun type => (type.target, outcome type)).lookup target =
      (types.find? (·.target = target)).map outcome := by
  induction types with
  | nil => rfl
  | cons type rest ih =>
    by_cases heq : type.target = target
    · simp [heq]
    · have hne : (target == type.target) = false := beq_eq_false_iff_ne.2 (Ne.symm heq)
      simp [List.lookup_cons, hne, heq, ih]

theorem examined_fresh (session : Session) (snapshot : Snapshot) :
    session.examined snapshot .fresh =
      (candidates session.settings snapshot).map fun type =>
        (type.target, settle session.settings snapshot type (session.cache.get? type.target)) :=
  examineAll_fresh _

/-- The outputs that exist after a run are those of its candidates. -/
theorem Ran.standing {outcomes : List (Target × Outcome)} {report : RunReport} {next : Session}
    (h : session.Ran outcomes report next) : report.standing = outputsOf session.cache outcomes := by
  have hfound : ∀ output ∈ outputsOf session.cache outcomes, output.status ≠ .removed := by
    intro output houtput
    obtain ⟨⟨target, outcome⟩, -, hreport⟩ := List.mem_filterMap.1 houtput
    exact Outcome.status_ne_removed hreport
  have hremoved : ∀ output ∈ (staleOf session.cache outcomes).entries.map (·.2.reported .removed),
      ¬ output.status ≠ .removed := by
    intro output houtput
    obtain ⟨entry, -, rfl⟩ := List.mem_map.1 houtput
    exact fun h => h rfl
  rw [RunReport.standing, h.outputs, List.filter_append,
    List.filter_eq_self.2 (by simpa using hfound), List.filter_eq_nil_iff.2 (by simpa using hremoved),
    List.append_nil]

/-- The run of a new session over a snapshot. -/
def runFromScratch (settings : Settings) (snapshot : Snapshot) :
    Except Failure (RunReport × Session) := do
  let session ← create settings
  session.run snapshot .fresh

/-- From every reachable session a run that is not cancelled leaves exactly the cache that the run
of a new session leaves. The outputs that exist after it are those of the new session, in the same
order and the same up to their status, and it reports the same failures. -/
theorem run_fresh_eq_runFromScratch (h : Reachable settings session) (snapshot : Snapshot) :
    ∃ report next first firstNext, session.run snapshot .fresh = .ok (report, next) ∧
      runFromScratch settings snapshot = .ok (first, firstNext) ∧
      next.cache = firstNext.cache ∧ report.standing.map (·.asNew) = first.outputs ∧
      report.failures = first.failures := by
  obtain ⟨hvalid, rfl⟩ := h.settings_eq
  obtain ⟨report, next, hrun, hran⟩ := session.run_eq snapshot .fresh
  obtain ⟨first, firstNext, hfirst, hscratch⟩ := (start session.settings).run_eq snapshot .fresh
  have hnew : runFromScratch session.settings snapshot = .ok (first, firstNext) := by
    rw [runFromScratch, create_eq_ok_iff.2 ⟨hvalid, rfl⟩]
    exact hfirst
  -- both runs settle the same candidates, one over the cache and one over nothing
  have hsettled : ∀ type : TypeDecl, Outcome.Rebuilds type.target
      (session.cache.get? type.target)
      (settle session.settings snapshot type (session.cache.get? type.target))
      (settle session.settings snapshot type none) := fun type =>
    rebuilds_settle _ snapshot type (h.coherentCache type.target)
  rw [examined_fresh] at hran hscratch
  refine ⟨report, next, first, firstNext, hrun, hnew, ?_, ?_, ?_⟩
  · refine TargetMap.ext_get? fun target => ?_
    rw [hran.cache, hscratch.cache, lookup_map_target, lookup_map_target]
    show _ = ((candidates session.settings snapshot).find? _ |>.map _).bind _
    cases hfind : (candidates session.settings snapshot).find? (·.target = target) with
    | none => rfl
    | some type =>
      obtain rfl : type.target = target := by simpa using List.find?_some hfind
      exact (hsettled type).left
  · have hstanding : first.standing = first.outputs := by
      rw [hscratch.standing, hscratch.outputs]
      simp [staleOf, start, TargetMap.empty, TargetMap.filter]
    rw [← hstanding, hran.standing, hscratch.standing, outputsOf, outputsOf, List.filterMap_map,
      List.filterMap_map, List.map_filterMap]
    exact List.filterMap_congr fun type _ => (hsettled type).output
  · rw [hran.failures, hscratch.failures, failuresOf, failuresOf, List.filterMap_map,
      List.filterMap_map]
    exact List.filterMap_congr fun type _ => (hsettled type).failure

/-- A session that already has the output of a type comes to the same as a new one. -/
theorem run_fresh_eq_runFromScratch_store : ∃ session, Reachable .default session ∧
    session.cache.targets = [storeTarget] ∧
    ∃ report next first firstNext, session.run storeSnapshot .fresh = .ok (report, next) ∧
      runFromScratch .default storeSnapshot = .ok (first, firstNext) ∧
      next.cache = firstNext.cache ∧ report.standing.map (·.asNew) = first.outputs ∧
      report.failures = first.failures := by
  obtain ⟨session, hreach, htargets⟩ := exists_reachable_store
  exact ⟨session, hreach, htargets, run_fresh_eq_runFromScratch hreach storeSnapshot⟩

end Session

end Forwarder
