import Mathlib.Data.List.Basic
import Forwarder.Proofs.Rendering
import Forwarder.Proofs.Session.Examination
import Forwarder.Proofs.TargetMap

/-!
# The second phase of a run

What an outcome does when it is committed depends on nothing but itself and what the cache has for
its target. As no two candidates have the same target, that is what the cache had before the run, so
a whole run can be said outcome by outcome: what it reports, what it counts, and what it leaves in
the cache. `Session.Ran` says it, and `run_eq` is the one place where a run is taken apart.
-/

namespace Forwarder

/-! ## Tallies -/

namespace Tally

theorem merge_zero (tally : Tally) : tally.merge zero = tally := by
  simp [merge, zero]

theorem merge_assoc (a b c : Tally) : (a.merge b).merge c = a.merge (b.merge c) := by
  simp [merge, UInt32.add_assoc]

/-- The counts of all tallies of a list. -/
def total (tallies : List Tally) : Tally := tallies.foldr merge zero

end Tally

namespace Session

/-! ## One outcome -/

namespace Outcome

/-- What an outcome reports, given what the cache has for its target. -/
def output? (cached : Option CachedOutput) : Outcome → Option ReportedUnit
  | .unchanged => cached.map (·.reported .cached)
  | .generated entry => some (entry.reported (if cached.isSome then .modified else .new))
  | .nothing | .cancelled | .failed _ => none

theorem status_ne_removed {cached : Option CachedOutput} {outcome : Outcome}
    {output : ReportedUnit} (h : outcome.output? cached = some output) :
    output.status ≠ .removed := by
  cases outcome with
  | unchanged =>
    obtain ⟨entry, -, rfl⟩ := Option.map_eq_some_iff.1 h
    show UnitStatus.cached ≠ .removed
    decide
  | generated made =>
    obtain rfl := Option.some.inj h
    show (if cached.isSome then UnitStatus.modified else .new) ≠ .removed
    split <;> decide
  | nothing | cancelled | failed _ => cases h

/-- The failure that an outcome reports. -/
def failure? (target : Target) : Outcome → Option FailedTarget
  | .failed failure => some ⟨target, failure.message⟩
  | _ => none

/-- What an outcome counts, given what the cache has for its target. -/
def counts (cached : Option CachedOutput) : Outcome → Tally
  | .nothing => .zero
  | .unchanged => if cached.isSome then countOf .cached else .zero
  | .generated _ => countOf (if cached.isSome then .modified else .new)
  | .cancelled => { Tally.zero with cancelled := 1 }
  | .failed _ => { Tally.zero with failed := 1 }

/-- Whether an outcome keeps its target from being removed. -/
def isLive : Outcome → Bool
  | .nothing => false
  | _ => true

/-- The cache with what an outcome puts into it. -/
def put (cache : Cache) (target : Target) : Outcome → Cache
  | .generated entry => cache.insert target entry
  | _ => cache

/-- What an outcome leaves in the cache at the end of the run, given what was there before. -/
def left (cached : Option CachedOutput) : Outcome → Option CachedOutput
  | .nothing => none
  | .generated entry => some entry
  | _ => cached

theorem get?_put_of_ne {cache : Cache} {target other : Target} (outcome : Outcome)
    (h : target ≠ other) : (outcome.put cache target).get? other = cache.get? other := by
  cases outcome with
  | generated entry => rw [put, TargetMap.get?_insert, if_neg h]
  | _ => rfl

/-- What is left for a target is what was put in, unless it is removed. -/
theorem left_eq {cache : Cache} {target : Target} (outcome : Outcome) :
    outcome.left (cache.get? target) =
      if outcome.isLive then (outcome.put cache target).get? target else none := by
  cases outcome with
  | generated entry => simp [left, put, isLive, TargetMap.get?_insert]
  | _ => rfl

end Outcome

/-- What a commitment does to the progress of a run. -/
theorem commit_eq (progress : Progress) (target : Target) (outcome : Outcome) :
    commit progress target outcome =
      { cache := outcome.put progress.cache target
        live := if outcome.isLive then target :: progress.live else progress.live
        result := { progress.result with
          outputs := progress.result.outputs ++
            (outcome.output? (progress.cache.get? target)).toList
          failures := progress.result.failures ++ (outcome.failure? target).toList
          tally := progress.result.tally.merge
            (outcome.counts (progress.cache.get? target)) } } := by
  cases outcome with
  | unchanged =>
    rw [commit]
    cases progress.cache.get? target with
    | none =>
      simp [Progress.keep, Outcome.put, Outcome.isLive, Outcome.output?, Outcome.failure?,
        Outcome.counts, Tally.merge_zero]
    | some entry =>
      simp [Progress.keep, Progress.report, Progress.track, Progress.count, Outcome.put,
        Outcome.isLive, Outcome.output?, Outcome.failure?, Outcome.counts]
  | generated entry =>
    have hcontains : progress.cache.contains target = (progress.cache.get? target).isSome := rfl
    cases hsome : (progress.cache.get? target).isSome <;>
      simp [commit, hcontains, hsome, Progress.keep, Progress.report, Progress.track,
        Progress.count, Outcome.put, Outcome.isLive, Outcome.output?, Outcome.failure?,
        Outcome.counts]
  | nothing | cancelled | failed _ =>
    simp [commit, Progress.keep, Progress.count, Outcome.put, Outcome.isLive, Outcome.output?,
      Outcome.failure?, Outcome.counts, Tally.merge_zero]

/-! ## All outcomes -/

variable {cache other : Cache} {outcomes : List (Target × Outcome)}

/-- What outcomes report, in their order, over a cache. -/
def outputsOf (cache : Cache) (outcomes : List (Target × Outcome)) : List ReportedUnit :=
  outcomes.filterMap fun entry => entry.2.output? (cache.get? entry.1)

/-- The failures that outcomes report, in their order. -/
def failuresOf (outcomes : List (Target × Outcome)) : List FailedTarget :=
  outcomes.filterMap fun entry => entry.2.failure? entry.1

/-- What outcomes count over a cache. -/
def countsOf (cache : Cache) (outcomes : List (Target × Outcome)) : Tally :=
  .total (outcomes.map fun entry => entry.2.counts (cache.get? entry.1))

/-- The cache with what outcomes put into it, one after the other. -/
def putAll (cache : Cache) (outcomes : List (Target × Outcome)) : Cache :=
  outcomes.foldl (fun cache entry => entry.2.put cache entry.1) cache

/-- The targets that outcomes keep from being removed. -/
def liveOf (outcomes : List (Target × Outcome)) : List Target :=
  (outcomes.filter (·.2.isLive)).map (·.1)

/-- Only what the cache has for the targets of outcomes matters to what they report. -/
theorem outputsOf_congr (h : ∀ entry ∈ outcomes, cache.get? entry.1 = other.get? entry.1) :
    outputsOf cache outcomes = outputsOf other outcomes :=
  List.filterMap_congr fun entry hentry => by rw [h entry hentry]

theorem countsOf_congr (h : ∀ entry ∈ outcomes, cache.get? entry.1 = other.get? entry.1) :
    countsOf cache outcomes = countsOf other outcomes := by
  rw [countsOf, countsOf, List.map_congr_left fun entry hentry => by rw [h entry hentry]]

/-- What an outcome puts in leaves alone what the cache has for the targets of those after it. -/
theorem get?_put_of_mem (cache : Cache) {target : Target} {outcome : Outcome}
    {rest : List (Target × Outcome)} (h : (((target, outcome) :: rest).map (·.1)).Nodup) :
    ∀ entry ∈ rest, (outcome.put cache target).get? entry.1 = cache.get? entry.1 := by
  intro entry hentry
  exact Outcome.get?_put_of_ne outcome (TargetMap.ne_of_nodup_cons h entry hentry)

theorem outputsOf_cons (cache : Cache) (target : Target) (outcome : Outcome)
    (rest : List (Target × Outcome)) :
    outputsOf cache ((target, outcome) :: rest) =
      (outcome.output? (cache.get? target)).toList ++ outputsOf cache rest := by
  simp only [outputsOf, List.filterMap_cons]
  cases outcome.output? (cache.get? target) <;> rfl

theorem failuresOf_cons (target : Target) (outcome : Outcome) (rest : List (Target × Outcome)) :
    failuresOf ((target, outcome) :: rest) =
      (outcome.failure? target).toList ++ failuresOf rest := by
  simp only [failuresOf, List.filterMap_cons]
  cases outcome.failure? target <;> rfl

/-- What committing outcomes one after the other does to the progress of a run. -/
theorem commitAll_eq (progress : Progress) (h : (outcomes.map (·.1)).Nodup) :
    ∃ live, commitAll progress outcomes =
        { cache := putAll progress.cache outcomes
          live
          result := { progress.result with
            outputs := progress.result.outputs ++ outputsOf progress.cache outcomes
            failures := progress.result.failures ++ failuresOf outcomes
            tally := progress.result.tally.merge (countsOf progress.cache outcomes) } } ∧
      ∀ target, target ∈ live ↔ target ∈ progress.live ∨ target ∈ liveOf outcomes := by
  induction outcomes generalizing progress with
  | nil =>
    refine ⟨progress.live, ?_, fun target => by simp [liveOf]⟩
    simp [commitAll, putAll, outputsOf, failuresOf, countsOf, Tally.total, Tally.merge_zero]
  | cons head rest ih =>
    obtain ⟨target, outcome⟩ := head
    have hsame := get?_put_of_mem progress.cache h
    obtain ⟨live, hcommit, hlive⟩ :=
      ih (commit progress target outcome) (List.nodup_cons.1 h).2
    refine ⟨live, ?_, fun other => ?_⟩
    · rw [commitAll, hcommit, commit_eq]
      simp only [outputsOf_congr hsame, countsOf_congr hsame]
      have hcounts : countsOf progress.cache ((target, outcome) :: rest) =
          (outcome.counts (progress.cache.get? target)).merge (countsOf progress.cache rest) := by
        simp [countsOf, Tally.total]
      rw [outputsOf_cons, failuresOf_cons, hcounts, putAll, putAll, List.foldl_cons]
      simp only [List.append_assoc, Tally.merge_assoc]
    · rw [hlive, commit_eq]
      cases houtcome : outcome.isLive <;> simp [liveOf, houtcome, or_assoc, or_left_comm]

/-! ## Outcomes by target -/

/-- When no target stands twice, looking a target up finds the outcome that stands with it. -/
theorem lookup_eq_some_iff_mem (h : (outcomes.map (·.1)).Nodup) {target : Target}
    {outcome : Outcome} : outcomes.lookup target = some outcome ↔ (target, outcome) ∈ outcomes := by
  induction outcomes with
  | nil => simp
  | cons head rest ih =>
    obtain ⟨first, held⟩ := head
    by_cases heq : target = first
    · subst heq
      have hnot : (target, outcome) ∉ rest := fun hmem =>
        TargetMap.ne_of_nodup_cons h _ hmem rfl
      simp [hnot, eq_comm]
    · have hrest := ih (List.nodup_cons.1 h).2
      simp [List.lookup_cons, beq_eq_false_iff_ne.2 heq, hrest, heq]

/-- A target is kept exactly if the outcome for it keeps it. -/
theorem mem_liveOf_iff (h : (outcomes.map (·.1)).Nodup) {target : Target} :
    target ∈ liveOf outcomes ↔ ∃ outcome, outcomes.lookup target = some outcome ∧
      outcome.isLive = true := by
  rw [liveOf]
  constructor
  · intro hmem
    obtain ⟨⟨other, outcome⟩, hentry, rfl⟩ := List.mem_map.1 hmem
    obtain ⟨hentry, hlive⟩ := List.mem_filter.1 hentry
    exact ⟨outcome, (lookup_eq_some_iff_mem h).2 hentry, hlive⟩
  · rintro ⟨outcome, hlookup, hlive⟩
    have hentry := (lookup_eq_some_iff_mem h).1 hlookup
    exact List.mem_map.2 ⟨(target, outcome), List.mem_filter.2 ⟨hentry, hlive⟩, rfl⟩

/-- After the commitments a target has what the outcome for it has put in. -/
theorem get?_putAll (cache : Cache) (h : (outcomes.map (·.1)).Nodup) (target : Target) :
    (putAll cache outcomes).get? target =
      match outcomes.lookup target with
      | none => cache.get? target
      | some outcome => (outcome.put cache target).get? target := by
  induction outcomes generalizing cache with
  | nil => rfl
  | cons head rest ih =>
    obtain ⟨first, outcome⟩ := head
    rw [putAll, List.foldl_cons, ← putAll, ih _ (List.nodup_cons.1 h).2]
    by_cases heq : target = first
    · subst heq
      have hnone : rest.lookup target = none := by
        rw [List.lookup_eq_none_iff]
        intro entry hentry
        simpa using TargetMap.ne_of_nodup_cons h entry hentry
      simp [hnone]
    · have hne : first ≠ target := fun h => heq h.symm
      simp only [List.lookup_cons, beq_eq_false_iff_ne.2 heq]
      cases rest.lookup target with
      | none => exact Outcome.get?_put_of_ne outcome hne
      | some later =>
        cases later with
        | generated entry => simp [Outcome.put, TargetMap.get?_insert]
        | _ => exact Outcome.get?_put_of_ne outcome hne

/-! ## Removal -/

/-- What the cache has for targets that no outcome keeps. -/
def staleOf (cache : Cache) (outcomes : List (Target × Outcome)) : Cache :=
  cache.filter (· ∉ liveOf outcomes)

/-- Nothing that the commitments put in is removed. -/
theorem filter_putAll_stale (cache : Cache) (h : (outcomes.map (·.1)).Nodup) :
    (putAll cache outcomes).filter (· ∉ liveOf outcomes) = staleOf cache outcomes := by
  refine TargetMap.ext_get? fun target => ?_
  rw [staleOf, TargetMap.get?_filter, TargetMap.get?_filter, get?_putAll cache h]
  cases hlookup : outcomes.lookup target with
  | none => rfl
  | some outcome =>
    cases hlive : outcome.isLive with
    | true =>
      have hmem := (mem_liveOf_iff h).2 ⟨outcome, hlookup, hlive⟩
      simp [hmem]
    | false =>
      obtain rfl : outcome = .nothing := by
        cases outcome <;> first | rfl | cases hlive
      rfl

/-- What stays of the cache is what the outcomes leave. -/
theorem get?_filter_putAll_live (cache : Cache) (h : (outcomes.map (·.1)).Nodup)
    (target : Target) :
    ((putAll cache outcomes).filter (· ∈ liveOf outcomes)).get? target =
      (outcomes.lookup target).bind fun outcome => outcome.left (cache.get? target) := by
  rw [TargetMap.get?_filter, get?_putAll cache h]
  simp only [mem_liveOf_iff h, decide_eq_true_eq]
  cases hlookup : outcomes.lookup target with
  | none => simp
  | some outcome => simp [Outcome.left_eq]

theorem reportRemoved_eq (progress : Progress) (entries : List (Target × CachedOutput)) :
    reportRemoved progress entries =
      { progress with result := { progress.result with
          outputs := progress.result.outputs ++ entries.map (·.2.reported .removed)
          tally := progress.result.tally.merge
            (.total (entries.map fun _ => countOf .removed)) } } := by
  induction entries generalizing progress with
  | nil => simp [reportRemoved, Tally.total, Tally.merge_zero]
  | cons head rest ih =>
    rw [reportRemoved, ih]
    simp [Progress.report, Progress.track, Progress.count, Tally.total, Tally.merge_assoc]

/-- What committing outcomes and then removing what they do not keep comes to. -/
theorem removeStale_commitAll (cache : Cache) (marker : Option SourceUnit)
    (h : (outcomes.map (·.1)).Nodup) :
    ∃ live kept, removeStale (commitAll
        { cache, live := [], result := ⟨marker, [], [], .oneRun⟩ } outcomes) =
        { cache := kept, live
          result :=
            { marker
              outputs := outputsOf cache outcomes ++
                (staleOf cache outcomes).entries.map (·.2.reported .removed)
              failures := failuresOf outcomes
              tally := (Tally.oneRun.merge (countsOf cache outcomes)).merge
                (.total ((staleOf cache outcomes).entries.map fun _ => countOf .removed)) } } ∧
      ∀ target, kept.get? target =
        (outcomes.lookup target).bind fun outcome => outcome.left (cache.get? target) := by
  obtain ⟨live, hcommit, hlive⟩ := commitAll_eq
    { cache, live := [], result := ⟨marker, [], [], .oneRun⟩ } h
  replace hlive : ∀ target, target ∈ live ↔ target ∈ liveOf outcomes := by simpa using hlive
  have hstale : (putAll cache outcomes).entries.filter (·.1 ∉ live) =
      (staleOf cache outcomes).entries := by
    rw [← filter_putAll_stale cache h]
    simp only [hlive]
    rfl
  refine ⟨live, (putAll cache outcomes).filter (· ∈ live), ?_, fun target => ?_⟩
  · rw [removeStale, hcommit, reportRemoved_eq]
    simp only [List.nil_append]
    rw [← hstale]
  · simp only [hlive]
    exact get?_filter_putAll_live cache h target

/-! ## A whole run -/

/-- What the first phase of a run finds. -/
def examined (session : Session) (snapshot : Snapshot) (token : Cancellation) :
    List (Target × Outcome) :=
  examineAll session.settings session.cache snapshot (candidates session.settings snapshot) token

theorem nodup_examined (session : Session) (snapshot : Snapshot) (token : Cancellation) :
    ((session.examined snapshot token).map (·.1)).Nodup := by
  rw [examined, map_fst_examineAll]
  exact nodup_candidates session.settings snapshot

/-- What a run with given outcomes reports and leaves behind. -/
structure Ran (session : Session) (outcomes : List (Target × Outcome)) (report : RunReport)
    (next : Session) : Prop where
  /-- The settings stay. -/
  settings : next.settings = session.settings
  /-- Every target has what the outcome for it leaves, and nothing if there is none. -/
  cache : ∀ target, next.cache.get? target =
    (outcomes.lookup target).bind fun outcome => outcome.left (session.cache.get? target)
  /-- The marker attribute has been emitted. -/
  emitted : next.markerEmitted = true
  /-- The counts of the run are added to those of the session. -/
  totals : next.totals = session.totals.merge report.tally
  /-- The marker attribute is reported unless it has been emitted before. -/
  marker : report.marker = if session.markerEmitted then none
    else some ⟨session.settings.markerUnitName, session.settings.markerText⟩
  /-- What the outcomes report comes before what is removed. -/
  outputs : report.outputs = outputsOf session.cache outcomes ++
    (staleOf session.cache outcomes).entries.map (·.2.reported .removed)
  /-- The failures are those of the outcomes. -/
  failures : report.failures = failuresOf outcomes
  /-- The run counts itself, the outcomes and what is removed. -/
  tally : report.tally = (Tally.oneRun.merge (countsOf session.cache outcomes)).merge
    (.total ((staleOf session.cache outcomes).entries.map fun _ => countOf .removed))

/-- A run always has a report. -/
theorem run_eq (session : Session) (snapshot : Snapshot) (token : Cancellation) :
    ∃ report next, session.run snapshot token = .ok (report, next) ∧
      session.Ran (session.examined snapshot token) report next := by
  let marker : Option SourceUnit := if session.markerEmitted then none
    else some ⟨session.settings.markerUnitName, session.settings.markerText⟩
  have hmarker : session.markerToEmit = .ok marker := by
    rw [markerToEmit, session.settings.markerUnit_eq]
    simp only [marker]
    split <;> rfl
  obtain ⟨live, kept, hprogress, hkept⟩ := removeStale_commitAll session.cache marker
    (session.nodup_examined snapshot token)
  have hrun : session.run snapshot token =
      let progress := removeStale (commitAll
        { cache := session.cache, live := [], result := ⟨marker, [], [], .oneRun⟩ }
        (session.examined snapshot token))
      .ok (progress.result,
        { session with
          cache := progress.cache, markerEmitted := true
          totals := session.totals.merge progress.result.tally }) := by
    rw [run, hmarker]
    rfl
  rw [hprogress] at hrun
  exact ⟨_, _, hrun, rfl, hkept, rfl, rfl, rfl, rfl, rfl, rfl⟩

/-- What a run reports and leaves behind follows from what its first phase finds. -/
theorem ran_of_run {session next : Session} {snapshot : Snapshot} {token : Cancellation}
    {report : RunReport} (h : session.run snapshot token = .ok (report, next)) :
    session.Ran (session.examined snapshot token) report next := by
  obtain ⟨report', next', hrun, hran⟩ := session.run_eq snapshot token
  rw [hrun] at h
  cases h
  exact hran

end Session

end Forwarder
