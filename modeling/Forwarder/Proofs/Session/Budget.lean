import Forwarder.Proofs.Session.Coherence

/-!
# Runs on a limited allowance

A run whose token has an allowance abandons the candidates that the allowance does not reach: those
that take some check, and together with the candidates before them more checks than there are. The
run does nothing with them, and does with all others what it would do on a fresh token. Candidates
that take no check are never abandoned, not even after all checks are used up.
-/

namespace Forwarder.Session

variable {settings : Settings} {session : Session} {cache : Cache} {cut : List Target}
  {outcomes : List (Target × Outcome)}

/-! ## Abandoned targets -/

/-- The outcomes with those for some targets abandoned. -/
def abandon (cut : List Target) (outcomes : List (Target × Outcome)) : List (Target × Outcome) :=
  outcomes.map fun entry => (entry.1, if entry.1 ∈ cut then .cancelled else entry.2)

/-- An abandoned target is found abandoned, and any other as it was. -/
theorem lookup_abandon (cut : List Target) (outcomes : List (Target × Outcome))
    (target : Target) : (abandon cut outcomes).lookup target =
      (outcomes.lookup target).map fun outcome => if target ∈ cut then .cancelled else outcome := by
  induction outcomes with
  | nil => rfl
  | cons head rest ih =>
    obtain ⟨first, outcome⟩ := head
    rw [abandon, List.map_cons, ← abandon, List.lookup_cons, List.lookup_cons, ih]
    cases heq : target == first with
    | true =>
      obtain rfl := beq_iff_eq.1 heq
      rfl
    | false => rfl

/-- Abandoned targets report nothing, and the others what they did. -/
theorem outputsOf_abandon (h : ∀ entry ∈ outcomes, ∀ output,
      entry.2.output? (cache.get? entry.1) = some output → output.target = entry.1) :
    outputsOf cache (abandon cut outcomes) =
      (outputsOf cache outcomes).filter (·.target ∉ cut) := by
  rw [outputsOf, outputsOf, abandon, List.filterMap_map, List.filter_filterMap]
  refine List.filterMap_congr fun entry hentry => ?_
  show (if entry.1 ∈ cut then Outcome.cancelled else entry.2).output? (cache.get? entry.1) = _
  cases houtput : entry.2.output? (cache.get? entry.1) with
  | none =>
    split
    · rfl
    · exact houtput
  | some output =>
    have htarget := h entry hentry output houtput
    by_cases hcut : entry.1 ∈ cut
    · simp [Option.filter, hcut, htarget, Outcome.output?]
    · simp [Option.filter, hcut, htarget, houtput]

/-- Abandoned targets do not fail, and the others do as they did. -/
theorem failuresOf_abandon (cut : List Target) (outcomes : List (Target × Outcome)) :
    failuresOf (abandon cut outcomes) = (failuresOf outcomes).filter (·.target ∉ cut) := by
  rw [failuresOf, failuresOf, abandon, List.filterMap_map, List.filter_filterMap]
  refine List.filterMap_congr fun entry _ => ?_
  obtain ⟨target, outcome⟩ := entry
  by_cases hcut : target ∈ cut <;> cases outcome <;> simp [Option.filter, hcut, Outcome.failure?]

/-- An abandoned target is kept, and of the others those that were. -/
theorem mem_liveOf_abandon (hcut : ∀ target ∈ cut, target ∈ outcomes.map (·.1))
    {target : Target} :
    target ∈ liveOf (abandon cut outcomes) ↔ target ∈ liveOf outcomes ∨ target ∈ cut := by
  simp only [liveOf, abandon, List.filter_map, List.map_map, List.mem_map, List.mem_filter,
    Function.comp_apply]
  constructor
  · rintro ⟨entry, ⟨hentry, hlive⟩, rfl⟩
    by_cases hmem : entry.1 ∈ cut
    · exact Or.inr hmem
    · rw [if_neg hmem] at hlive
      exact Or.inl ⟨entry, ⟨hentry, hlive⟩, rfl⟩
  · rintro (⟨entry, ⟨hentry, hlive⟩, rfl⟩ | hmem)
    · refine ⟨entry, ⟨hentry, ?_⟩, rfl⟩
      split
      · rfl
      · exact hlive
    · obtain ⟨entry, hentry, rfl⟩ := List.mem_map.1 (hcut target hmem)
      refine ⟨entry, ⟨hentry, ?_⟩, rfl⟩
      rw [if_pos hmem]
      rfl

/-- Abandoned targets are not removed, and of the others those that were. -/
theorem removed_abandon (h : CoherentCache settings cache)
    (hcut : ∀ target ∈ cut, target ∈ outcomes.map (·.1)) :
    (staleOf cache (abandon cut outcomes)).entries.map (·.2.reported .removed) =
      ((staleOf cache outcomes).entries.map (·.2.reported .removed)).filter (·.target ∉ cut) := by
  rw [List.filter_map]
  simp only [staleOf, TargetMap.filter, List.filter_filter]
  congr 1
  refine List.filter_congr fun entry hentry => ?_
  have htarget : entry.2.decorator.target = entry.1 :=
    (h entry.1 entry.2 (TargetMap.get?_eq_some_iff.2 hentry)).target_eq
  simp [mem_liveOf_abandon hcut, CachedOutput.reported, htarget, and_comm]

/-- Just the abandoned targets are counted as such. -/
theorem cancelled_countsOf_abandon (cache : Cache) (cut : List Target)
    (h : ∀ entry ∈ outcomes, entry.2 ≠ .cancelled) :
    (countsOf cache (abandon cut outcomes)).cancelled =
      UInt32.ofNat ((outcomes.map (·.1)).filter (· ∈ cut)).length := by
  induction outcomes with
  | nil => rfl
  | cons head rest ih =>
    obtain ⟨target, outcome⟩ := head
    have hrest := ih fun entry hentry => h entry (List.mem_cons_of_mem _ hentry)
    have hhead : outcome ≠ .cancelled := h (target, outcome) List.mem_cons_self
    have hcounts : (countsOf cache (abandon cut ((target, outcome) :: rest))).cancelled =
        ((if target ∈ cut then Outcome.cancelled else outcome).counts
          (cache.get? target)).cancelled + (countsOf cache (abandon cut rest)).cancelled := rfl
    rw [hcounts, hrest, List.map_cons]
    by_cases hcut : target ∈ cut
    · simp [hcut, Outcome.counts, Tally.zero, UInt32.ofNat_add, UInt32.add_comm]
    · have hzero : (outcome.counts (cache.get? target)).cancelled = 0 := by
        cases outcome with
        | unchanged => rw [Outcome.counts]; split <;> rfl
        | generated entry => rw [Outcome.counts]; split <;> rfl
        | cancelled => exact absurd rfl hhead
        | nothing | failed _ => rfl
      simp [hcut, hzero]

theorem cancelled_removed (entries : List (Target × CachedOutput)) :
    (Tally.total (entries.map fun _ => countOf .removed)).cancelled = 0 := by
  induction entries with
  | nil => rfl
  | cons entry rest ih =>
    show 0 + (Tally.total (rest.map fun _ => countOf .removed)).cancelled = 0
    rw [ih]
    rfl

/-! ## Candidates out of reach -/

/-- The types that an allowance does not reach: they take some check, and the checks through their
positions are more than are allowed. -/
def cutOff (snapshot : Snapshot) (types : List TypeDecl) (allowance : Nat) : List Target :=
  (types.zipIdx.filter fun entry => 0 < entry.1.checks snapshot ∧
    allowance < checksThrough snapshot types entry.2).map (·.1.target)

/-- The targets out of reach are some of the types' targets, in their order. -/
theorem cutOff_sublist (snapshot : Snapshot) (types : List TypeDecl) (allowance : Nat) :
    (cutOff snapshot types allowance).Sublist (types.map (·.target)) := by
  have htypes : types.zipIdx.map (·.1.target) = types.map (·.target) := by
    show types.zipIdx.map (TypeDecl.target ∘ Prod.fst) = _
    rw [← List.map_map, List.zipIdx_map_fst]
  rw [← htypes]
  exact List.filter_sublist.map _

/-- When no target stands twice, a type's target is out of reach exactly if its position is. -/
theorem mem_cutOff_iff {snapshot : Snapshot} {types : List TypeDecl} {allowance position : Nat}
    {type : TypeDecl} (hnodup : (types.map (·.target)).Nodup)
    (h : types[position]? = some type) :
    type.target ∈ cutOff snapshot types allowance ↔
      0 < type.checks snapshot ∧ allowance < checksThrough snapshot types position := by
  rw [cutOff, List.mem_map]
  constructor
  · rintro ⟨⟨other, place⟩, hmem, htarget⟩
    obtain ⟨hother, hreach⟩ := List.mem_filter.1 hmem
    have hplace : types[place]? = some other := List.mem_zipIdx_iff_getElem?.1 hother
    have hlt : place < (types.map (·.target)).length := by
      rw [List.length_map]
      exact (List.getElem?_eq_some_iff.1 hplace).1
    obtain rfl : place = position := by
      refine (List.getElem?_inj hlt hnodup).1 ?_
      rw [List.getElem?_map, List.getElem?_map, h, hplace]
      exact congrArg some htarget
    obtain rfl : other = type := Option.some.inj (hplace.symm.trans h)
    simpa using hreach
  · intro hreach
    refine ⟨(type, position), List.mem_filter.2 ⟨?_, by simpa using hreach⟩, rfl⟩
    exact List.mem_zipIdx_iff_getElem?.2 h

/-- On an allowance the types out of reach are abandoned, and the others are as they are on a fresh
token. -/
theorem examineAll_allowing (snapshot : Snapshot) {types : List TypeDecl} (allowance : Nat)
    (hnodup : (types.map (·.target)).Nodup) :
    examineAll settings cache snapshot types (.allowing allowance) =
      abandon (cutOff snapshot types allowance)
        (examineAll settings cache snapshot types .fresh) := by
  rw [examineAll_eq, examineAll_fresh, abandon, List.map_map]
  refine List.ext_getElem? fun position => ?_
  rw [List.getElem?_mapIdx, List.getElem?_map]
  cases htype : types[position]? with
  | none => rfl
  | some type =>
    simp only [Option.map_some, Function.comp_apply, outcomeAt, mem_cutOff_iff hnodup htype,
      Cancellation.permits_allowing_iff, Nat.not_le]

/-- On a token that is cancelled already no allowance is left. -/
theorem examineAll_of_cancelled (snapshot : Snapshot) (types : List TypeDecl)
    {token : Cancellation} (h : token.cancelled = true) :
    examineAll settings cache snapshot types token =
      examineAll settings cache snapshot types (.allowing 0) := by
  simp only [examineAll_eq, outcomeAt, Cancellation.permits_iff_of_cancelled h,
    Cancellation.permits_allowing_iff, Nat.le_zero]

theorem settle_ne_cancelled (settings : Settings) (snapshot : Snapshot) (type : TypeDecl)
    (cached : Option CachedOutput) : settle settings snapshot type cached ≠ .cancelled := by
  rw [settle]
  cases type.decorator? snapshot settings with
  | none => exact Outcome.noConfusion
  | some decorator =>
    simp only
    split
    · exact Outcome.noConfusion
    · rw [generateEntry]
      cases decorator.sourceUnit settings <;> exact Outcome.noConfusion

/-! ## Runs -/

/-- What a run reports and leaves behind that abandons some targets, next to what it would report
and leave behind otherwise. -/
structure Abandons (session : Session) (cut : List Target) (report : RunReport) (next : Session)
    (full : RunReport) (fullNext : Session) : Prop where
  /-- It counts just the abandoned targets as such. -/
  counted : report.tally.cancelled = UInt32.ofNat cut.length
  /-- It reports the outputs of all other targets as they would be reported. -/
  outputs : report.outputs = full.outputs.filter (·.target ∉ cut)
  /-- It reports the failures of all other targets as they would be reported. -/
  failures : report.failures = full.failures.filter (·.target ∉ cut)
  /-- The abandoned targets have what they had before, and all others what they would have. -/
  cache : ∀ target, next.cache.get? target =
    if target ∈ cut then session.cache.get? target else fullNext.cache.get? target

/-- Two runs, one of which finds the outcomes of the other with some targets abandoned. -/
theorem Ran.abandons {report full : RunReport} {next fullNext : Session}
    (hcoherent : CoherentCache session.settings session.cache)
    (hnodup : (outcomes.map (·.1)).Nodup)
    (hcut : cut.Sublist (outcomes.map (·.1)))
    (hsettled : ∀ entry ∈ outcomes, entry.2 ≠ .cancelled)
    (htarget : ∀ entry ∈ outcomes, ∀ output,
      entry.2.output? (session.cache.get? entry.1) = some output → output.target = entry.1)
    (hran : session.Ran (abandon cut outcomes) report next)
    (hfull : session.Ran outcomes full fullNext) :
    session.Abandons cut report next full fullNext where
  counted := by
    have hperm : ((outcomes.map (·.1)).filter (· ∈ cut)).Perm cut := by
      refine (List.perm_ext_iff_of_nodup (hnodup.filter _) (hnodup.sublist hcut)).2 fun target => ?_
      rw [List.mem_filter, decide_eq_true_eq]
      exact ⟨fun h => h.2, fun h => ⟨hcut.subset h, h⟩⟩
    rw [hran.tally]
    show 0 + (countsOf session.cache (abandon cut outcomes)).cancelled + _ = _
    rw [cancelled_removed, cancelled_countsOf_abandon session.cache cut hsettled, hperm.length_eq]
    simp
  outputs := by
    rw [hran.outputs, hfull.outputs, List.filter_append, outputsOf_abandon htarget,
      removed_abandon hcoherent hcut.subset]
  failures := by rw [hran.failures, hfull.failures, failuresOf_abandon]
  cache := by
    intro target
    rw [hran.cache, hfull.cache, lookup_abandon]
    split
    · rename_i hmem
      obtain ⟨⟨other, outcome⟩, hentry, rfl⟩ := List.mem_map.1 (hcut.subset hmem)
      rw [(lookup_eq_some_iff_mem hnodup).2 hentry]
      simp [Outcome.left]
    · simp

/-- Runs over one snapshot that find the same outcomes are the same. -/
theorem run_eq_of_examined {snapshot : Snapshot} {token other : Cancellation}
    (h : session.examined snapshot token = session.examined snapshot other) :
    session.run snapshot token = session.run snapshot other := by
  simp only [examined] at h
  simp only [run, h]

/-- From a reachable session a run on an allowance abandons just the candidates that the allowance
does not reach, and does with all others what it does on a fresh token. On a token that is cancelled
already it is a run on no allowance. The checks of a candidate are those that deriving its decorator
makes. -/
theorem abandons_cutOff (h : Reachable settings session) (snapshot : Snapshot) :
    (∀ allowance, ∃ report next full fullNext,
      session.run snapshot (.allowing allowance) = .ok (report, next) ∧
      session.run snapshot .fresh = .ok (full, fullNext) ∧
      session.Abandons (cutOff snapshot (candidates settings snapshot) allowance)
        report next full fullNext) ∧
    (∀ token : Cancellation, token.cancelled = true →
      session.run snapshot token = session.run snapshot (.allowing 0)) ∧
    ∀ type more, (Decorator.derive snapshot settings type).start
        (.allowing (type.checks snapshot + more)) =
      (.ok (Decorator.derive? snapshot settings type), .allowing more) := by
  obtain ⟨-, rfl⟩ := h.settings_eq
  refine ⟨fun allowance => ?_, fun token htoken => ?_, fun type more => ?_⟩
  · obtain ⟨report, next, hrun, hran⟩ := session.run_eq snapshot (.allowing allowance)
    obtain ⟨full, fullNext, hrunFull, hfull⟩ := session.run_eq snapshot .fresh
    refine ⟨report, next, full, fullNext, hrun, hrunFull, ?_⟩
    have hnodup := nodup_candidates session.settings snapshot
    have hexamined : session.examined snapshot (.allowing allowance) =
        abandon (cutOff snapshot (candidates session.settings snapshot) allowance)
          (session.examined snapshot .fresh) := examineAll_allowing snapshot allowance hnodup
    have htargets : (session.examined snapshot .fresh).map (·.1) =
        (candidates session.settings snapshot).map (·.target) := map_fst_examineAll _ _
    rw [hexamined] at hran
    refine hran.abandons h.coherentCache (session.nodup_examined snapshot .fresh) ?_ ?_ ?_ hfull
    · rw [htargets]
      exact cutOff_sublist snapshot _ allowance
    · intro entry hentry
      rw [examined, examineAll_fresh] at hentry
      obtain ⟨type, -, rfl⟩ := List.mem_map.1 hentry
      exact settle_ne_cancelled _ snapshot type _
    · intro entry hentry output houtput
      obtain ⟨held, hheld, status, rfl⟩ := exists_of_output? (h.coherentCache entry.1)
        (coherent_of_mem_examined hentry) houtput
      exact hheld.target_reported status
  · exact run_eq_of_examined (examineAll_of_cancelled snapshot _ htoken)
  · rw [(Decorator.derive_takes snapshot session.settings type).finishes _
      ((Cancellation.permits_allowing_iff _ _).2 (Nat.le_add_right _ _)), Decorator.derive?_eq]
    simp [Cancellation.spend, Cancellation.allowing]

/-- A session that has the output of a type with two checks keeps it through a run on one, and so
it does through a run on a token that is cancelled already. -/
theorem abandons_cutOff_store : ∃ session, Reachable .default session ∧
    session.cache.targets = [storeTarget] ∧
    cutOff storeSnapshot (candidates .default storeSnapshot) 1 = [storeTarget] ∧
    session.run storeSnapshot Cancellation.fresh.cancel =
      session.run storeSnapshot (.allowing 0) ∧
    ∃ report next full fullNext,
      session.run storeSnapshot (.allowing 1) = .ok (report, next) ∧
      session.run storeSnapshot .fresh = .ok (full, fullNext) ∧
      session.Abandons (cutOff storeSnapshot (candidates .default storeSnapshot) 1)
        report next full fullNext := by
  obtain ⟨session, hreach, htargets⟩ := exists_reachable_store
  obtain ⟨hallowing, hcancelled, -⟩ := abandons_cutOff hreach storeSnapshot
  exact ⟨session, hreach, htargets, by decide +kernel, hcancelled _ rfl, hallowing 1⟩

end Forwarder.Session
