import Forwarder.Proofs.Session.Coherence

/-!
# Reports as an event log

A host that sees nothing but the reports of runs can keep a mirror of a session's outputs: it takes
in what is new or modified and drops what is removed. The mirror never drifts. Every reported output
is one that the mirror can take, and after each run the mirror has just the targets and texts that
the session has. Both are shown first for the output of one outcome, then for all outcomes of a run
and the removals after them, and then for any sequence of runs.
-/

namespace Forwarder

/-! ## Mirrors -/

/-- What a host knows of the outputs of a session: the text for each target. -/
abbrev Mirror := TargetMap String

namespace Mirror

/-- The mirror after a reported output. -/
def follow (mirror : Mirror) (output : ReportedUnit) : Mirror :=
  match output.status with
  | .new | .modified => mirror.insert output.target output.text
  | .cached => mirror
  | .removed => mirror.erase output.target

/-- A reported output says nothing that is at odds with the mirror: what is new is unknown so far,
what is modified is known, and what is cached or removed is known with its text. -/
def Accepts (mirror : Mirror) (output : ReportedUnit) : Prop :=
  match output.status with
  | .new => mirror.get? output.target = none
  | .modified => (mirror.get? output.target).isSome = true
  | .cached | .removed => mirror.get? output.target = some output.text

instance (mirror : Mirror) (output : ReportedUnit) : Decidable (mirror.Accepts output) := by
  unfold Accepts
  split <;> infer_instance

/-- The mirror after a reported output, if that is accepted. -/
def follow? (mirror : Mirror) (output : ReportedUnit) : Option Mirror :=
  if mirror.Accepts output then some (mirror.follow output) else none

/-- The mirror after reported outputs, if each of them is accepted in its turn. -/
def followAll? (mirror : Mirror) (outputs : List ReportedUnit) : Option Mirror :=
  outputs.foldlM follow? mirror

theorem followAll?_cons {mirror : Mirror} {output : ReportedUnit} {rest : List ReportedUnit}
    (h : mirror.Accepts output) :
    mirror.followAll? (output :: rest) = (mirror.follow output).followAll? rest := by
  rw [followAll?, List.foldlM_cons, follow?, if_pos h]
  rfl

theorem followAll?_append {mirror middle : Mirror} {first rest : List ReportedUnit}
    (h : mirror.followAll? first = some middle) :
    mirror.followAll? (first ++ rest) = middle.followAll? rest := by
  rw [followAll?, List.foldlM_append, ← followAll?, h]
  rfl

end Mirror

namespace Session

variable {settings : Settings} {cache : Cache}

/-- What the mirror of a cache is to be. -/
def mirrorOf (cache : Cache) : Mirror := cache.mapValues (·.unit.text)

/-- The targets and texts of a session. -/
def mirror (session : Session) : Mirror := mirrorOf session.cache

/-! ## Outcomes -/

/-- What is put into a coherent cache leaves it coherent, if that is coherent itself. -/
theorem CoherentCache.put (h : CoherentCache settings cache) {target : Target} {outcome : Outcome}
    (hmade : ∀ entry, outcome = .generated entry → entry.Coherent settings target) :
    CoherentCache settings (outcome.put cache target) := by
  cases outcome with
  | generated made =>
    intro other entry hentry
    rw [Outcome.put, TargetMap.get?_insert] at hentry
    split at hentry
    · rename_i heq
      obtain rfl := Option.some.inj hentry
      exact heq ▸ hmade made rfl
    · exact h other entry hentry
  | nothing | unchanged | cancelled | failed _ => exact h

/-- The mirror of a cache follows what an outcome reports to the mirror of what it leaves. -/
theorem followAll?_output? (h : CoherentCache settings cache) {target : Target}
    {outcome : Outcome}
    (hmade : ∀ entry, outcome = .generated entry → entry.Coherent settings target) :
    (mirrorOf cache).followAll? (outcome.output? (cache.get? target)).toList =
      some (mirrorOf (outcome.put cache target)) := by
  have hheld : (mirrorOf cache).get? target = (cache.get? target).map (·.unit.text) :=
    TargetMap.get?_mapValues cache _ target
  cases outcome with
  | unchanged =>
    cases hcached : cache.get? target with
    | none => rfl
    | some entry =>
      rw [hcached] at hheld
      have haccepts : (mirrorOf cache).Accepts (entry.reported .cached) := by
        show (mirrorOf cache).get? entry.decorator.target = some entry.unit.text
        rw [(h target entry hcached).target_eq, hheld]
        rfl
      exact Mirror.followAll?_cons haccepts
  | generated made =>
    have htarget := (hmade made rfl).target_eq
    have hfollow : (mirrorOf cache).insert made.decorator.target made.unit.text =
        mirrorOf (cache.insert target made) := by
      rw [mirrorOf, mirrorOf, TargetMap.mapValues_insert, htarget]
    cases hcached : cache.get? target with
    | none =>
      have haccepts : (mirrorOf cache).Accepts (made.reported .new) := by
        show (mirrorOf cache).get? made.decorator.target = none
        rw [htarget, hheld, hcached]
        rfl
      exact (Mirror.followAll?_cons haccepts).trans (congrArg some hfollow)
    | some entry =>
      have haccepts : (mirrorOf cache).Accepts (made.reported .modified) := by
        show ((mirrorOf cache).get? made.decorator.target).isSome = true
        rw [htarget, hheld, hcached]
        rfl
      exact (Mirror.followAll?_cons haccepts).trans (congrArg some hfollow)
  | nothing | cancelled | failed _ => rfl

/-- The mirror of a cache follows what outcomes report to the mirror of what they put in. -/
theorem followAll?_outputsOf {outcomes : List (Target × Outcome)}
    (h : CoherentCache settings cache) (hnodup : (outcomes.map (·.1)).Nodup)
    (hmade : ∀ target outcome, (target, outcome) ∈ outcomes → ∀ entry,
      outcome = .generated entry → entry.Coherent settings target) :
    CoherentCache settings (putAll cache outcomes) ∧
      (mirrorOf cache).followAll? (outputsOf cache outcomes) =
        some (mirrorOf (putAll cache outcomes)) := by
  induction outcomes generalizing cache with
  | nil => exact ⟨h, rfl⟩
  | cons head rest ih =>
    obtain ⟨target, outcome⟩ := head
    have hfirst := hmade target outcome List.mem_cons_self
    obtain ⟨hcoherent, hrest⟩ := ih (h.put hfirst) (List.nodup_cons.1 hnodup).2
      fun target outcome hmem => hmade target outcome (List.mem_cons_of_mem _ hmem)
    refine ⟨hcoherent, ?_⟩
    -- the later outcomes find in the cache what they would have found before this one
    rw [outputsOf_cons, Mirror.followAll?_append (followAll?_output? h hfirst),
      ← outputsOf_congr (get?_put_of_mem cache hnodup), hrest]
    rfl

/-- The mirror of a cache follows removals to the mirror of what is left. -/
theorem followAll?_removed (cache : Cache) {entries : List (Target × CachedOutput)}
    (hnodup : (entries.map (·.1)).Nodup)
    (h : ∀ entry ∈ entries, cache.get? entry.1 = some entry.2 ∧ entry.2.decorator.target = entry.1) :
    (mirrorOf cache).followAll? (entries.map (·.2.reported .removed)) =
      some (mirrorOf (cache.filter (· ∉ entries.map (·.1)))) := by
  induction entries generalizing cache with
  | nil =>
    have hall : cache.filter (· ∉ ([] : List (Target × CachedOutput)).map (·.1)) = cache :=
      TargetMap.ext_get? fun target => by simp [TargetMap.get?_filter]
    rw [hall]
    rfl
  | cons head rest ih =>
    obtain ⟨target, entry⟩ := head
    obtain ⟨hheld, htarget⟩ := h (target, entry) List.mem_cons_self
    have haccepts : (mirrorOf cache).Accepts (entry.reported .removed) := by
      show (mirrorOf cache).get? entry.decorator.target = some entry.unit.text
      rw [htarget, mirrorOf, TargetMap.get?_mapValues, hheld]
      rfl
    have hfollow : (mirrorOf cache).follow (entry.reported .removed) =
        mirrorOf (cache.erase target) := by
      show (mirrorOf cache).erase entry.decorator.target = _
      rw [htarget, mirrorOf, mirrorOf, TargetMap.mapValues_erase]
    have hlater : ∀ other ∈ rest, (cache.erase target).get? other.1 = some other.2 ∧
        other.2.decorator.target = other.1 := by
      intro other hother
      rw [TargetMap.get?_erase, if_neg (TargetMap.ne_of_nodup_cons hnodup other hother)]
      exact h other (List.mem_cons_of_mem _ hother)
    have hleft : (cache.erase target).filter (· ∉ rest.map (·.1)) =
        cache.filter (· ∉ ((target, entry) :: rest).map (·.1)) := by
      refine TargetMap.ext_get? fun other => ?_
      rw [TargetMap.get?_filter, TargetMap.get?_filter, TargetMap.get?_erase]
      by_cases heq : target = other
      · simp [heq]
      · have hmem : other ∈ ((target, entry) :: rest).map (·.1) ↔ other ∈ rest.map (·.1) := by
          simp [Ne.symm heq]
        simp only [hmem, if_neg heq]
    rw [List.map_cons, Mirror.followAll?_cons haccepts, hfollow, ih _ (List.nodup_cons.1 hnodup).2 hlater,
      hleft]

/-! ## Runs -/

/-- The mirror of a session follows the report of a run to the mirror of the session after it. -/
theorem followAll?_ran {session next : Session} {snapshot : Snapshot} {token : Cancellation}
    {report : RunReport} (hcache : CoherentCache session.settings session.cache)
    (h : session.Ran (session.examined snapshot token) report next) :
    session.mirror.followAll? report.outputs = some next.mirror := by
  have hnodup := session.nodup_examined snapshot token
  generalize houtcomes : session.examined snapshot token = outcomes at h hnodup
  have hmade : ∀ target outcome, (target, outcome) ∈ outcomes → ∀ entry,
      outcome = .generated entry → entry.Coherent session.settings target := by
    intro target outcome hmem
    rw [← houtcomes] at hmem
    exact coherent_of_mem_examined hmem
  obtain ⟨hcoherent, hfound⟩ := followAll?_outputsOf hcache hnodup hmade
  have hstale := filter_putAll_stale session.cache hnodup
  have hremoved := followAll?_removed (putAll session.cache outcomes)
    (staleOf session.cache outcomes).nodup_targets fun entry hentry => by
      rw [← hstale] at hentry
      have hheld := TargetMap.get?_eq_some_iff.2 (List.mem_filter.1 hentry).1
      exact ⟨hheld, (hcoherent _ _ hheld).target_eq⟩
  -- what is not removed is what the outcomes leave
  have hnext : (putAll session.cache outcomes).filter
      (· ∉ (staleOf session.cache outcomes).targets) = next.cache := by
    rw [← hstale, TargetMap.filter_not_mem_targets]
    refine TargetMap.ext_get? fun target => ?_
    rw [h.cache, ← get?_filter_putAll_live session.cache hnodup]
    simp
  rw [h.outputs, mirror, Mirror.followAll?_append hfound, mirror, ← hnext]
  exact hremoved

/-- Runs a session over one snapshot after the other, and gives each report with the session after
it. -/
def runAll (session : Session) :
    List (Snapshot × Cancellation) → Except Failure (List (RunReport × Session))
  | [] => .ok []
  | (snapshot, token) :: rest => do
    let (report, next) ← session.run snapshot token
    let later ← next.runAll rest
    return (report, next) :: later

/-- The mirror of a session with a coherent cache follows the reports of runs to the mirror of the
session after each of them. -/
theorem followAll?_runAll {session : Session}
    (hcache : CoherentCache session.settings session.cache)
    (passes : List (Snapshot × Cancellation)) :
    ∃ steps, session.runAll passes = .ok steps ∧ steps.length = passes.length ∧
      ∀ position report next, steps[position]? = some (report, next) →
        session.mirror.followAll? ((steps.take (position + 1)).flatMap (·.1.outputs)) =
          some next.mirror := by
  induction passes generalizing session with
  | nil => exact ⟨[], rfl, rfl, fun position report next h => by simp at h⟩
  | cons pass rest ih =>
    obtain ⟨snapshot, token⟩ := pass
    obtain ⟨report, next, hrun, hran⟩ := session.run_eq snapshot token
    have hnext : CoherentCache next.settings next.cache := by
      rw [hran.settings]
      exact (coherent_of_ran hcache hran).1
    have hfollow := followAll?_ran hcache hran
    obtain ⟨later, hlater, hlength, hmirror⟩ := ih hnext
    refine ⟨(report, next) :: later, ?_, by simp [hlength], ?_⟩
    · rw [runAll, hrun]
      show (next.runAll rest >>= fun later => pure ((report, next) :: later)) = _
      rw [hlater]
      rfl
    · intro position last lastNext hstep
      rw [List.take_succ_cons, List.flatMap_cons, Mirror.followAll?_append hfollow]
      cases position with
      | zero =>
        obtain ⟨rfl, rfl⟩ : report = last ∧ next = lastNext := by simpa using hstep
        rfl
      | succ position => exact hmirror position last lastNext (by simpa using hstep)

/-- The reports of any sequence of runs of a new session are a complete event log. A host that
starts with nothing and follows them can take every output that is reported, and after each run it
has exactly the targets and texts of the session. -/
theorem mirror_follows_runAll {session : Session} (h : create settings = .ok session)
    (passes : List (Snapshot × Cancellation)) :
    ∃ steps, session.runAll passes = .ok steps ∧ steps.length = passes.length ∧
      ∀ position report next, steps[position]? = some (report, next) →
        Mirror.followAll? .empty ((steps.take (position + 1)).flatMap (·.1.outputs)) =
          some next.mirror := by
  have hcoherent := (Reachable.new h).coherentCache
  obtain ⟨-, rfl⟩ := create_eq_ok_iff.1 h
  exact followAll?_runAll hcoherent passes

/-- A host can follow a session through three runs: over a type, over the same type with too small
an allowance, and over nothing. -/
theorem mirror_follows_runAll_store : create .default = .ok (start .default) ∧ ∃ steps,
    (start .default).runAll [(storeSnapshot, .fresh), (storeSnapshot, .allowing 1),
      ({ types := [], interfaces := [] }, .fresh)] = .ok steps ∧ steps.length = 3 ∧
    ∀ position report next, steps[position]? = some (report, next) →
      Mirror.followAll? .empty ((steps.take (position + 1)).flatMap (·.1.outputs)) =
        some next.mirror :=
  ⟨create_default, mirror_follows_runAll create_default _⟩

end Session

end Forwarder
