import Forwarder.Proofs.Session.DeclarationOrder

/-!
# Running again over the same snapshot

A candidate that a run has settled is settled by the next run over the same snapshot without any
work: its decorator is now the cached one, or it fails again, or it has no decorator still. So the
second of two runs that are not cut short serves every output of the first one from the cache, in
the same order, and reports nothing else.
-/

namespace Forwarder

/-- An output with the status it has when it is served from the cache. -/
def ReportedUnit.asCached (output : ReportedUnit) : ReportedUnit := { output with status := .cached }

namespace Session

variable {session next last : Session} {snapshot : Snapshot} {report later : RunReport}

/-- The second outcome for a target comes, given what the first one has left, to the same output as
the first one, now cached, and keeps or loses the target alike. -/
structure Outcome.Repeats (cached : Option CachedOutput) (outcome again : Outcome) : Prop where
  /-- The output is reported as cached. -/
  output : again.output? (outcome.left cached) = (outcome.output? cached).map (·.asCached)
  /-- The target stays or goes. -/
  isLive : again.isLive = outcome.isLive

/-- What settling a candidate comes to is repeated when it is settled again. -/
theorem repeats_settle (settings : Settings) (snapshot : Snapshot) (type : TypeDecl)
    (cached : Option CachedOutput) :
    Outcome.Repeats cached (settle settings snapshot type cached)
      (settle settings snapshot type ((settle settings snapshot type cached).left cached)) := by
  cases hdecorator : type.decorator? snapshot settings with
  | none =>
    have hnothing : ∀ held, settle settings snapshot type held = .nothing := fun held => by
      rw [settle, hdecorator]
    rw [hnothing, hnothing]
    exact ⟨rfl, rfl⟩
  | some decorator =>
    by_cases hsame : cached.map (·.decorator) = some decorator
    · have hunchanged : settle settings snapshot type cached = .unchanged := by
        simp only [settle, hdecorator, hsame, if_true]
      have hagain : settle settings snapshot type (Outcome.left cached .unchanged) = .unchanged :=
        hunchanged
      rw [hunchanged, hagain]
      refine ⟨?_, rfl⟩
      cases cached <;> rfl
    · have hgenerate : settle settings snapshot type cached = generateEntry settings decorator := by
        simp only [settle, hdecorator, hsame, if_false]
      cases hunit : decorator.sourceUnit settings with
      | ok unit =>
        have hgenerated : settle settings snapshot type cached =
            .generated { decorator, unit, fingerprint := unit.fingerprint } := by
          rw [hgenerate, generateEntry, hunit]
        -- the entry that is left has been made from the decorator
        have hagain : settle settings snapshot type (Outcome.left cached
            (.generated { decorator, unit, fingerprint := unit.fingerprint })) = .unchanged := by
          simp only [settle, hdecorator, Outcome.left, Option.map_some, if_true]
        rw [hgenerated, hagain]
        exact ⟨rfl, rfl⟩
      | error failure =>
        have hfailed : settle settings snapshot type cached = .failed failure := by
          rw [hgenerate, generateEntry, hunit]
        have hagain : settle settings snapshot type (Outcome.left cached (.failed failure)) =
            .failed failure := hfailed
        rw [hfailed, hagain]
        exact ⟨rfl, rfl⟩

/-- What a run leaves for a candidate is what its outcome leaves. -/
theorem Ran.get?_candidate (h : session.Ran (session.examined snapshot .fresh) report next)
    {type : TypeDecl} (htype : type ∈ candidates session.settings snapshot) :
    next.cache.get? type.target =
      (settle session.settings snapshot type (session.cache.get? type.target)).left
        (session.cache.get? type.target) := by
  have hlookup := (lookup_eq_some_iff_mem (session.nodup_examined snapshot .fresh)).2
    ((completes_fresh session snapshot).mem_examined htype)
  rw [h.cache, hlookup, Option.bind_some]

/-- A target that a run leaves in the cache is that of a candidate whose outcome keeps it. -/
theorem Ran.exists_candidate (h : session.Ran (session.examined snapshot .fresh) report next)
    {target : Target} {entry : CachedOutput} (hentry : next.cache.get? target = some entry) :
    ∃ type ∈ candidates session.settings snapshot, type.target = target ∧
      (settle session.settings snapshot type (session.cache.get? type.target)).isLive = true := by
  rw [h.cache] at hentry
  obtain ⟨outcome, hlookup, hleft⟩ := Option.bind_eq_some_iff.1 hentry
  have hmem := (lookup_eq_some_iff_mem (session.nodup_examined snapshot .fresh)).1 hlookup
  rw [examined_fresh] at hmem
  obtain ⟨type, htype, heq⟩ := List.mem_map.1 hmem
  obtain ⟨rfl, rfl⟩ := Prod.mk.inj heq
  refine ⟨type, htype, rfl, ?_⟩
  cases houtcome : settle session.settings snapshot type (session.cache.get? type.target) with
  | nothing =>
    rw [houtcome] at hleft
    cases hleft
  | unchanged | generated _ | cancelled | failed _ => rfl

/-- A second run over the same snapshot reports the outputs of the first one as cached, in the same
order, and nothing else, if neither run is cut short. -/
theorem Ran.outputs_again {token other : Cancellation}
    (h : session.Ran (session.examined snapshot token) report next)
    (hcompletes : session.Completes snapshot token)
    (hagain : next.Ran (next.examined snapshot other) later last)
    (hcompletesAgain : next.Completes snapshot other) :
    later.outputs = report.standing.map (·.asCached) := by
  rw [hcompletes.examined_eq] at h
  rw [hcompletesAgain.examined_eq] at hagain
  have hsettings : next.settings = session.settings := h.settings
  have hrepeats : ∀ type ∈ candidates session.settings snapshot,
      Outcome.Repeats (session.cache.get? type.target)
        (settle session.settings snapshot type (session.cache.get? type.target))
        (settle session.settings snapshot type (next.cache.get? type.target)) := by
    intro type htype
    rw [h.get?_candidate htype]
    exact repeats_settle session.settings snapshot type _
  have hexamined : next.examined snapshot .fresh =
      (candidates session.settings snapshot).map fun type =>
        (type.target,
          settle session.settings snapshot type (next.cache.get? type.target)) := by
    rw [examined_fresh, hsettings]
  -- whatever the first run has left stays
  have hstale : (staleOf next.cache (next.examined snapshot .fresh)).entries = [] := by
    refine List.filter_eq_nil_iff.2 fun entry hentry => ?_
    obtain ⟨type, htype, htarget, hlive⟩ :=
      h.exists_candidate (TargetMap.get?_eq_some_iff.2 hentry)
    have hmem : entry.1 ∈ liveOf (next.examined snapshot .fresh) := by
      rw [hexamined]
      refine List.mem_map.2 ⟨_, List.mem_filter.2 ⟨List.mem_map_of_mem htype, ?_⟩, htarget⟩
      exact (hrepeats type htype).isLive.trans hlive
    simpa using hmem
  have hstanding := h.standing
  rw [examined_fresh, outputsOf, List.filterMap_map] at hstanding
  rw [hagain.outputs, hstale, List.map_nil, List.append_nil, hexamined, outputsOf,
    List.filterMap_map, hstanding, List.map_filterMap]
  refine List.filterMap_congr fun type htype => ?_
  have houtput := (hrepeats type htype).output
  rw [← h.get?_candidate htype] at houtput
  exact houtput

end Session

end Forwarder
