import Mathlib.Algebra.GroupWithZero.Nat
import Forwarder.Proofs.Session.Rebuild

/-!
# Accounting for runs

Every candidate of a run ends in exactly one of six ways: its output is new, modified or cached, it
fails, it is abandoned, or it has no decorator. What the report counts are the numbers of these, and
with the removals they also account for the size of the cache. Nothing is reported twice. Each fact
is shown first for the outcomes of a run, by induction on them, and then for the run.
-/

namespace Forwarder

/-! ## Counters -/

/-- What a tally counts. -/
inductive Counter where
  /-- Runs. -/
  | runs
  /-- New outputs. -/
  | new
  /-- Modified outputs. -/
  | modified
  /-- Cached outputs. -/
  | cached
  /-- Removed outputs. -/
  | removed
  /-- Failed candidates. -/
  | failed
  /-- Abandoned candidates. -/
  | cancelled

/-- The counter of the outputs with a status. -/
def UnitStatus.counter : UnitStatus → Counter
  | .new => .new
  | .modified => .modified
  | .cached => .cached
  | .removed => .removed

namespace Tally

/-- What a counter of a tally has come to. -/
def get (tally : Tally) : Counter → UInt32
  | .runs => tally.runs
  | .new => tally.new
  | .modified => tally.modified
  | .cached => tally.cached
  | .removed => tally.removed
  | .failed => tally.failed
  | .cancelled => tally.cancelled

theorem get_zero (counter : Counter) : zero.get counter = 0 := by
  cases counter <;> rfl

theorem get_merge (a b : Tally) (counter : Counter) :
    (a.merge b).get counter = a.get counter + b.get counter := by
  cases counter <;> rfl

/-- Tallies of which each counts the items of a list count the items of all these lists. -/
theorem get_total_map {α β : Type} {counts : α → Tally} {pick : α → List β} {counter : Counter}
    {entries : List α}
    (h : ∀ entry ∈ entries, (counts entry).get counter = UInt32.ofNat (pick entry).length) :
    (total (entries.map counts)).get counter = UInt32.ofNat (entries.flatMap pick).length := by
  induction entries with
  | nil => exact get_zero counter
  | cons entry rest ih =>
    have hfirst := h entry List.mem_cons_self
    have hrest := ih fun other hother => h other (List.mem_cons_of_mem _ hother)
    have hsplit : (total ((entry :: rest).map counts)).get counter =
        (counts entry).get counter + (total (rest.map counts)).get counter :=
      get_merge _ _ counter
    rw [hsplit, hfirst, hrest, List.flatMap_cons, List.length_append, UInt32.ofNat_add]

end Tally

namespace RunReport

/-- Outputs divide up by status. -/
theorem length_outputs (outputs : List ReportedUnit) :
    outputs.length = (outputs.filter (·.status = .new)).length +
      (outputs.filter (·.status = .modified)).length +
      (outputs.filter (·.status = .cached)).length +
      (outputs.filter (·.status = .removed)).length := by
  induction outputs with
  | nil => rfl
  | cons output rest ih =>
    have hlength : (output :: rest).length = rest.length + 1 := rfl
    cases hstatus : output.status <;> simp [hstatus] <;> omega

end RunReport

namespace Session

variable {settings : Settings} {session next : Session} {cache : Cache} {snapshot : Snapshot}
  {token : Cancellation} {report : RunReport} {outcomes : List (Target × Outcome)}

/-! ## What outcomes count -/

/-- Whether an outcome is that its candidate was abandoned. -/
def Outcome.isCancelled : Outcome → Bool
  | .cancelled => true
  | _ => false

theorem Outcome.get_counts_status (cached : Option CachedOutput) (outcome : Outcome)
    (status : UnitStatus) : (outcome.counts cached).get status.counter =
      UInt32.ofNat ((outcome.output? cached).toList.filter (·.status = status)).length := by
  cases outcome with
  | unchanged =>
    cases cached with
    | none => cases status <;> rfl
    | some entry => cases status <;> rfl
  | generated made =>
    cases cached with
    | none => cases status <;> rfl
    | some entry => cases status <;> rfl
  | nothing | cancelled | failed _ => cases status <;> rfl

theorem Outcome.get_counts_failed (cached : Option CachedOutput) (target : Target)
    (outcome : Outcome) : (outcome.counts cached).get .failed =
      UInt32.ofNat (outcome.failure? target).toList.length := by
  cases outcome with
  | unchanged | generated _ => cases cached <;> rfl
  | nothing | cancelled | failed _ => rfl

theorem Outcome.get_counts_cancelled (cached : Option CachedOutput) (outcome : Outcome) :
    (outcome.counts cached).get .cancelled =
      UInt32.ofNat (if outcome.isCancelled then [()] else []).length := by
  cases outcome with
  | unchanged | generated _ => cases cached <;> rfl
  | nothing | cancelled | failed _ => rfl

theorem get_countsOf_status (cache : Cache) (outcomes : List (Target × Outcome))
    (status : UnitStatus) : (countsOf cache outcomes).get status.counter =
      UInt32.ofNat ((outputsOf cache outcomes).filter (·.status = status)).length := by
  have hflat : (outputsOf cache outcomes).filter (·.status = status) =
      outcomes.flatMap fun entry =>
        (entry.2.output? (cache.get? entry.1)).toList.filter (·.status = status) := by
    induction outcomes with
    | nil => rfl
    | cons head rest ih => rw [outputsOf_cons, List.filter_append, ih, List.flatMap_cons]
  rw [hflat]
  exact Tally.get_total_map fun entry _ => entry.2.get_counts_status _ status

theorem get_countsOf_failed (cache : Cache) (outcomes : List (Target × Outcome)) :
    (countsOf cache outcomes).get .failed = UInt32.ofNat (failuresOf outcomes).length := by
  have hflat : failuresOf outcomes =
      outcomes.flatMap fun entry => (entry.2.failure? entry.1).toList := by
    rw [failuresOf, List.filterMap_eq_flatMap_toList]
  rw [hflat]
  exact Tally.get_total_map fun entry _ => entry.2.get_counts_failed _ entry.1

theorem get_countsOf_cancelled (cache : Cache) (outcomes : List (Target × Outcome)) :
    (countsOf cache outcomes).get .cancelled =
      UInt32.ofNat (outcomes.countP (·.2.isCancelled)) := by
  have hlength : outcomes.countP (·.2.isCancelled) =
      (outcomes.flatMap fun entry => if entry.2.isCancelled then [()] else []).length := by
    induction outcomes with
    | nil => rfl
    | cons head rest ih =>
      rw [List.flatMap_cons, List.length_append, ← ih, List.countP_cons]
      cases head.2.isCancelled <;> simp [Nat.add_comm]
  rw [hlength]
  exact Tally.get_total_map fun entry _ => entry.2.get_counts_cancelled _

/-- Removals count as removals only. -/
theorem get_removed (entries : List (Target × CachedOutput)) (counter : Counter) :
    (Tally.total (entries.map fun _ => countOf .removed)).get counter =
      match counter with
      | .removed => UInt32.ofNat entries.length
      | _ => 0 := by
  induction entries with
  | nil => cases counter <;> rfl
  | cons entry rest ih =>
    have hsplit : (Tally.total ((entry :: rest).map fun _ => countOf .removed)).get counter =
        (countOf .removed).get counter +
          (Tally.total (rest.map fun _ => countOf .removed)).get counter :=
      Tally.get_merge _ _ counter
    rw [hsplit, ih]
    cases counter with
    | removed =>
      rw [List.length_cons, UInt32.ofNat_add, UInt32.add_comm]
      rfl
    | _ => rfl

/-! ## What outcomes report -/

/-- Outcomes that belong together with a cache: there is one for each target, each reports its own
target, and what is unchanged is in the cache. -/
structure Faithful (cache : Cache) (outcomes : List (Target × Outcome)) : Prop where
  /-- No target has two outcomes. -/
  nodup : (outcomes.map (·.1)).Nodup
  /-- What is reported is reported of the outcome's target. -/
  target_eq : ∀ entry ∈ outcomes, ∀ output,
    entry.2.output? (cache.get? entry.1) = some output → output.target = entry.1
  /-- An unchanged target has an entry. -/
  isSome_cached : ∀ target, (target, Outcome.unchanged) ∈ outcomes → (cache.get? target).isSome

theorem generateEntry_ne_unchanged (settings : Settings) (decorator : Decorator) :
    generateEntry settings decorator ≠ .unchanged := by
  rw [generateEntry]
  cases decorator.sourceUnit settings <;> exact Outcome.noConfusion

/-- A settled candidate is unchanged only if there is an entry for it. -/
theorem isSome_of_settle_eq_unchanged {type : TypeDecl} {cached : Option CachedOutput}
    (h : settle settings snapshot type cached = .unchanged) : cached.isSome := by
  rw [settle] at h
  cases hdecorator : type.decorator? snapshot settings with
  | none =>
    rw [hdecorator] at h
    cases h
  | some decorator =>
    rw [hdecorator] at h
    simp only at h
    split at h
    · rename_i hsame
      obtain ⟨entry, rfl, -⟩ := Option.map_eq_some_iff.1 hsame
      rfl
    · exact absurd h (generateEntry_ne_unchanged settings decorator)

/-- What the first phase of a run finds belongs together with a coherent cache. -/
theorem faithful_examined (h : CoherentCache session.settings session.cache) (snapshot : Snapshot)
    (token : Cancellation) : Faithful session.cache (session.examined snapshot token) where
  nodup := session.nodup_examined snapshot token
  target_eq := by
    intro entry hentry output houtput
    obtain ⟨held, hheld, status, rfl⟩ := exists_of_output? (h entry.1)
      (coherent_of_mem_examined hentry) houtput
    exact hheld.target_reported status
  isSome_cached := by
    intro target hmem
    obtain ⟨type, -, rfl, hcancelled | hsettled⟩ := exists_of_mem_examineAll hmem
    · cases hcancelled
    · exact isSome_of_settle_eq_unchanged hsettled.symm

namespace Faithful

/-- A target is reported with an output exactly if its outcome has one. -/
theorem mem_targets_outputsOf (h : Faithful cache outcomes) {target : Target} :
    target ∈ (outputsOf cache outcomes).map (·.target) ↔
      ∃ outcome output, (target, outcome) ∈ outcomes ∧
        outcome.output? (cache.get? target) = some output := by
  rw [List.mem_map]
  constructor
  · rintro ⟨output, hmem, rfl⟩
    obtain ⟨entry, hentry, houtput⟩ := List.mem_filterMap.1 hmem
    have htarget := h.target_eq entry hentry output houtput
    rw [htarget]
    exact ⟨entry.2, output, hentry, houtput⟩
  · rintro ⟨outcome, output, hentry, houtput⟩
    refine ⟨output, List.mem_filterMap.2 ⟨(target, outcome), hentry, houtput⟩, ?_⟩
    exact h.target_eq _ hentry output houtput

/-- Outputs are reported in the order of the outcomes. -/
theorem targets_outputsOf_sublist (h : Faithful cache outcomes) :
    ((outputsOf cache outcomes).map (·.target)).Sublist (outcomes.map (·.1)) := by
  have htargets : (outputsOf cache outcomes).map (·.target) =
      (outcomes.filter fun entry => (entry.2.output? (cache.get? entry.1)).isSome).map (·.1) := by
    rw [outputsOf, List.map_filterMap, ← List.filterMap_eq_filter, List.map_filterMap]
    refine List.filterMap_congr fun entry hentry => ?_
    cases houtput : entry.2.output? (cache.get? entry.1) with
    | none => simp [Option.guard, houtput]
    | some output => simp [Option.guard, houtput, h.target_eq entry hentry output houtput]
  rw [htargets]
  exact List.filter_sublist.map _

theorem mem_targets_failuresOf {target : Target} :
    target ∈ (failuresOf outcomes).map (·.target) ↔
      ∃ failure, (target, Outcome.failed failure) ∈ outcomes := by
  rw [List.mem_map]
  constructor
  · rintro ⟨failed, hmem, rfl⟩
    obtain ⟨⟨target, outcome⟩, hentry, hfailure⟩ := List.mem_filterMap.1 hmem
    cases outcome with
    | failed failure =>
      obtain rfl := Option.some.inj hfailure
      exact ⟨failure, hentry⟩
    | nothing | unchanged | generated _ | cancelled => cases hfailure
  · rintro ⟨failure, hentry⟩
    exact ⟨⟨target, failure.message⟩, List.mem_filterMap.2 ⟨_, hentry, rfl⟩, rfl⟩

theorem targets_failuresOf_sublist (outcomes : List (Target × Outcome)) :
    ((failuresOf outcomes).map (·.target)).Sublist (outcomes.map (·.1)) := by
  induction outcomes with
  | nil => exact List.Sublist.slnil
  | cons head rest ih =>
    obtain ⟨target, outcome⟩ := head
    cases outcome with
    | failed failure => exact ih.cons_cons target
    | nothing | unchanged | generated _ | cancelled => exact ih.cons target

/-- No target has two outcomes. -/
theorem outcome_eq (h : Faithful cache outcomes) {target : Target} {a b : Outcome}
    (ha : (target, a) ∈ outcomes) (hb : (target, b) ∈ outcomes) : a = b := by
  have hlookup := (lookup_eq_some_iff_mem h.nodup).2 ha
  exact Option.some.inj (hlookup.symm.trans ((lookup_eq_some_iff_mem h.nodup).2 hb))

/-- What is removed has no outcome that keeps it. -/
theorem not_isLive_of_mem_staleOf (h : Faithful cache outcomes) {target : Target}
    {outcome : Outcome} (hstale : target ∈ (staleOf cache outcomes).targets)
    (hentry : (target, outcome) ∈ outcomes) : outcome.isLive = false := by
  obtain ⟨value, hvalue⟩ := TargetMap.mem_targets_iff.1 hstale
  rw [staleOf, TargetMap.get?_filter] at hvalue
  by_contra hlive
  have hmem : target ∈ liveOf outcomes := (mem_liveOf_iff h.nodup).2
    ⟨outcome, (lookup_eq_some_iff_mem h.nodup).2 hentry, by simpa using hlive⟩
  simp [hmem] at hvalue

/-- No target is reported twice: as an output, as removed, or as failed. -/
theorem nodup_reported (h : Faithful cache outcomes) :
    ((outputsOf cache outcomes).map (·.target) ++ (staleOf cache outcomes).targets ++
      (failuresOf outcomes).map (·.target)).Nodup := by
  rw [List.nodup_append, List.nodup_append]
  refine ⟨⟨h.nodup.sublist h.targets_outputsOf_sublist, TargetMap.nodup_targets _, ?_⟩,
    h.nodup.sublist (targets_failuresOf_sublist outcomes), ?_⟩
  · rintro target houtput _ hstale rfl
    obtain ⟨outcome, output, hentry, hreport⟩ := h.mem_targets_outputsOf.1 houtput
    have hlive := h.not_isLive_of_mem_staleOf hstale hentry
    cases outcome with
    | nothing => cases hreport
    | unchanged | generated _ | cancelled | failed _ => cases hlive
  · rintro target hreported _ hfailed rfl
    obtain ⟨failure, hfailure⟩ := mem_targets_failuresOf.1 hfailed
    rcases List.mem_append.1 hreported with houtput | hstale
    · obtain ⟨outcome, output, hentry, hreport⟩ := h.mem_targets_outputsOf.1 houtput
      obtain rfl := h.outcome_eq hentry hfailure
      cases hreport
    · have hlive := h.not_isLive_of_mem_staleOf hstale hfailure
      cases hlive

/-! ## How outcomes balance -/

/-- An outcome goes one way only. -/
theorem one_eq_ways {cached : Option CachedOutput} {outcome : Outcome} (target : Target)
    (h : outcome = .unchanged → cached.isSome) :
    1 = (outcome.output? cached).toList.length + (outcome.failure? target).toList.length +
      (if outcome.isCancelled then 1 else 0) + (if !outcome.isLive then 1 else 0) := by
  cases outcome with
  | unchanged =>
    obtain ⟨entry, rfl⟩ := Option.isSome_iff_exists.1 (h rfl)
    rfl
  | nothing | generated _ | cancelled | failed _ => rfl

/-- Every outcome is an output, a failure, an abandonment, or that there is no decorator. -/
theorem length_outcomes (h : Faithful cache outcomes) :
    outcomes.length = (outputsOf cache outcomes).length + (failuresOf outcomes).length +
      outcomes.countP (·.2.isCancelled) + outcomes.countP (!·.2.isLive) := by
  have hcached : ∀ entry ∈ outcomes, entry.2 = .unchanged → (cache.get? entry.1).isSome := by
    rintro ⟨target, outcome⟩ hentry rfl
    exact h.isSome_cached target hentry
  clear h
  induction outcomes with
  | nil => rfl
  | cons head rest ih =>
    obtain ⟨target, outcome⟩ := head
    have hrest := ih fun entry hentry => hcached entry (List.mem_cons_of_mem _ hentry)
    have hhead := one_eq_ways target (hcached (target, outcome) List.mem_cons_self)
    rw [List.length_cons, outputsOf_cons, failuresOf_cons, List.length_append, List.length_append,
      List.countP_cons, List.countP_cons]
    simp only at hhead ⊢
    omega

/-- New outputs are those of targets that were generated and had no entry. -/
theorem mem_targets_new (h : Faithful cache outcomes) {target : Target} :
    target ∈ ((outputsOf cache outcomes).filter (·.status = .new)).map (·.target) ↔
      cache.get? target = none ∧ ∃ made, (target, Outcome.generated made) ∈ outcomes := by
  rw [List.mem_map]
  constructor
  · rintro ⟨output, hmem, rfl⟩
    obtain ⟨houtput, hstatus⟩ := List.mem_filter.1 hmem
    obtain ⟨⟨target, outcome⟩, hentry, hreport⟩ := List.mem_filterMap.1 houtput
    rw [h.target_eq _ hentry output hreport]
    simp only at hreport ⊢
    cases outcome with
    | generated made =>
      refine ⟨?_, made, hentry⟩
      obtain rfl := Option.some.inj hreport
      by_contra hsome
      simp [CachedOutput.reported, Option.isSome_iff_ne_none, hsome] at hstatus
    | unchanged =>
      obtain ⟨entry, -, rfl⟩ := Option.map_eq_some_iff.1 hreport
      simp [CachedOutput.reported] at hstatus
    | nothing | cancelled | failed _ => cases hreport
  · rintro ⟨hnone, made, hentry⟩
    have hreport : (Outcome.generated made).output? (cache.get? target) =
        some (made.reported .new) := by
      rw [hnone]
      rfl
    refine ⟨made.reported .new, List.mem_filter.2 ⟨?_, by simp [CachedOutput.reported]⟩, ?_⟩
    · exact List.mem_filterMap.2 ⟨_, hentry, hreport⟩
    · exact h.target_eq _ hentry _ hreport

/-- The targets that a run leaves in the cache or removes from it are those that were in it or are
new, each once. -/
theorem targets_perm (h : Faithful session.cache outcomes)
    (hran : session.Ran outcomes report next) :
    (next.cache.targets ++ (staleOf session.cache outcomes).targets).Perm
      (session.cache.targets ++
        ((outputsOf session.cache outcomes).filter (·.status = .new)).map (·.target)) := by
  have hkept : ∀ target, target ∈ next.cache.targets ↔ ∃ outcome, (target, outcome) ∈ outcomes ∧
      (outcome.left (session.cache.get? target)).isSome := by
    intro target
    simp only [TargetMap.mem_targets_iff, hran.cache, Option.bind_eq_some_iff,
      lookup_eq_some_iff_mem h.nodup, Option.isSome_iff_exists]
    exact ⟨fun ⟨value, outcome, hmem, hleft⟩ => ⟨outcome, hmem, value, hleft⟩,
      fun ⟨outcome, hmem, value, hleft⟩ => ⟨value, outcome, hmem, hleft⟩⟩
  have hstale : ∀ target, target ∈ (staleOf session.cache outcomes).targets ↔
      target ∈ session.cache.targets ∧ target ∉ liveOf outcomes := by
    intro target
    simp only [TargetMap.mem_targets_iff, staleOf, TargetMap.get?_filter]
    by_cases hlive : target ∈ liveOf outcomes <;> simp [hlive]
  have hlive : ∀ target, target ∈ liveOf outcomes ↔ ∃ outcome, (target, outcome) ∈ outcomes ∧
      outcome.isLive = true := by
    intro target
    simp only [mem_liveOf_iff h.nodup, lookup_eq_some_iff_mem h.nodup]
  refine (List.perm_ext_iff_of_nodup ?_ ?_).2 fun target => ?_
  · rw [List.nodup_append]
    refine ⟨TargetMap.nodup_targets _, TargetMap.nodup_targets _, ?_⟩
    rintro target hnext _ hremoved rfl
    obtain ⟨outcome, hentry, hleft⟩ := (hkept target).1 hnext
    have hdead := h.not_isLive_of_mem_staleOf hremoved hentry
    cases outcome with
    | nothing => cases hleft
    | unchanged | generated _ | cancelled | failed _ => cases hdead
  · rw [List.nodup_append]
    refine ⟨TargetMap.nodup_targets _, ?_, ?_⟩
    · exact (h.nodup.sublist h.targets_outputsOf_sublist).sublist (List.filter_sublist.map _)
    · rintro target hcached _ hnew rfl
      obtain ⟨value, hvalue⟩ := TargetMap.mem_targets_iff.1 hcached
      rw [(h.mem_targets_new.1 hnew).1] at hvalue
      cases hvalue
  · rw [List.mem_append, List.mem_append, hkept, hstale, hlive, h.mem_targets_new,
      TargetMap.mem_targets_iff]
    constructor
    · rintro (⟨outcome, hentry, hleft⟩ | ⟨hcached, -⟩)
      · cases hcached : session.cache.get? target with
        | some entry => exact Or.inl ⟨entry, rfl⟩
        | none =>
          rw [hcached] at hleft
          cases outcome with
          | generated made => exact Or.inr ⟨rfl, made, hentry⟩
          | nothing | unchanged | cancelled | failed _ => cases hleft
      · exact Or.inl hcached
    · rintro (⟨entry, hcached⟩ | ⟨-, made, hentry⟩)
      · by_cases hheld : ∃ outcome, (target, outcome) ∈ outcomes ∧ outcome.isLive = true
        · obtain ⟨outcome, hentry, houtcome⟩ := hheld
          refine Or.inl ⟨outcome, hentry, ?_⟩
          rw [hcached]
          cases outcome with
          | nothing => cases houtcome
          | unchanged | generated _ | cancelled | failed _ => rfl
        · exact Or.inr ⟨⟨entry, hcached⟩, hheld⟩
      · exact Or.inl ⟨_, hentry, rfl⟩

end Faithful

/-! ## Candidates -/

/-- The distinct targets of the marked types of a snapshot, in the order of their first
declarations. -/
def markedTargets (settings : Settings) (snapshot : Snapshot) : List Target :=
  ((snapshot.marked settings.markerAttribute).map (·.target)).eraseDups

theorem map_target_distinctTargets (seen : List Target) (types : List TypeDecl) :
    (distinctTargets seen types).map (·.target) =
      ((types.map (·.target)).filter (· ∉ seen)).eraseDups := by
  induction types generalizing seen with
  | nil => rfl
  | cons type rest ih =>
    rw [distinctTargets, List.map_cons]
    by_cases hseen : type.target ∈ seen
    · rw [if_pos hseen, List.filter_cons_of_neg (by simpa using hseen), ih]
    · rw [if_neg hseen, List.filter_cons_of_pos (by simpa using hseen), List.eraseDups_cons,
        List.map_cons, ih, List.filter_filter]
      congr 2
      refine List.filter_congr fun target _ => ?_
      by_cases heq : target = type.target <;> simp [heq]

theorem map_target_candidates (settings : Settings) (snapshot : Snapshot) :
    (candidates settings snapshot).map (·.target) = markedTargets settings snapshot := by
  rw [candidates, map_target_distinctTargets, markedTargets]
  simp

/-- How many of several types come to no decorator, when their decorators are derived one after the
other on a token. -/
def undecorated (settings : Settings) (snapshot : Snapshot) :
    List TypeDecl → Cancellation → Nat
  | [], _ => 0
  | type :: rest, token =>
    match (Decorator.derive snapshot settings type).start token with
    | (.ok none, token) => 1 + undecorated settings snapshot rest token
    | (_, token) => undecorated settings snapshot rest token

/-- These are the candidates of which the first phase of a run finds nothing. -/
theorem countP_not_isLive (types : List TypeDecl) (token : Cancellation) :
    (examineAll settings cache snapshot types token).countP (!·.2.isLive) =
      undecorated settings snapshot types token := by
  induction types generalizing token with
  | nil => rfl
  | cons type rest ih =>
    rw [examineAll, undecorated, List.countP_cons, examine]
    rcases (Decorator.derive snapshot settings type).start token with ⟨failure | decorator?, after⟩
    · simp only [ih]
      split <;> rfl
    · cases decorator? with
      | none =>
        simp only [ih]
        exact Nat.add_comm _ 1
      | some decorator =>
        simp only
        split
        · exact ih after
        · split
          · exact ih after
          · rw [ih after, generateEntry]
            cases decorator.sourceUnit settings <;> rfl

/-! ## Runs -/

/-- What a run over a snapshot reports accounts for all its candidates and for the cache. -/
structure Balanced (session : Session) (snapshot : Snapshot) (token : Cancellation)
    (report : RunReport) (next : Session) : Prop where
  /-- No target is reported twice, be it with an output or with a failure. -/
  once : (report.outputs.map (·.target) ++ report.failures.map (·.target)).Nodup
  /-- What is removed is reported last. -/
  removedLast : report.outputs = report.standing ++ report.withStatus .removed
  /-- Before that come outputs of marked types, in the order of their first declarations. -/
  inOrder : (report.standing.map (·.target)).Sublist (markedTargets session.settings snapshot)
  /-- Removals come in the order of targets. -/
  removedInOrder : (report.withStatus .removed).Pairwise fun a b => a.target.Before b.target
  /-- Outputs are counted by status. -/
  counted : ∀ status, report.tally.get status.counter =
    UInt32.ofNat (report.withStatus status).length
  /-- Failures are counted. -/
  failed : report.tally.failed = UInt32.ofNat report.failures.length
  /-- The counts of all candidates, and those without a decorator, add up to the distinct targets
  of marked types, unless these are more than a counter can hold. -/
  balance : (markedTargets session.settings snapshot).length < UInt32.size →
    report.tally.new.toNat + report.tally.modified.toNat + report.tally.cached.toNat +
      report.tally.failed.toNat + report.tally.cancelled.toNat +
      undecorated session.settings snapshot (candidates session.settings snapshot) token =
        (markedTargets session.settings snapshot).length
  /-- The cache grows by what is new and shrinks by what is removed. -/
  size : next.cache.size + (report.withStatus .removed).length =
    session.cache.size + (report.withStatus .new).length

/-- No outcome reports a removal. -/
theorem filter_removed_outputsOf (cache : Cache) (outcomes : List (Target × Outcome)) :
    (outputsOf cache outcomes).filter (·.status = .removed) = [] := by
  rw [List.filter_eq_nil_iff]
  intro output houtput
  obtain ⟨⟨target, outcome⟩, -, hreport⟩ := List.mem_filterMap.1 houtput
  simpa using Outcome.status_ne_removed hreport

/-- The outputs with a status that is not that of removal are among those of the outcomes. -/
theorem Ran.withStatus_of_ne (h : session.Ran outcomes report next) {status : UnitStatus}
    (hstatus : status ≠ .removed) : report.withStatus status =
      (outputsOf session.cache outcomes).filter (·.status = status) := by
  have hremoved : ((staleOf session.cache outcomes).entries.map (·.2.reported .removed)).filter
      (·.status = status) = [] := by
    rw [List.filter_eq_nil_iff]
    intro output houtput
    obtain ⟨entry, -, rfl⟩ := List.mem_map.1 houtput
    simp [CachedOutput.reported, hstatus.symm]
  rw [RunReport.withStatus, h.outputs, List.filter_append, hremoved, List.append_nil]

theorem Ran.withStatus_removed (h : session.Ran outcomes report next) :
    report.withStatus .removed =
      (staleOf session.cache outcomes).entries.map (·.2.reported .removed) := by
  rw [RunReport.withStatus, h.outputs, List.filter_append, filter_removed_outputsOf,
    List.nil_append, List.filter_eq_self]
  intro output houtput
  obtain ⟨entry, -, rfl⟩ := List.mem_map.1 houtput
  exact decide_eq_true rfl

/-- What is removed is reported of the targets that it stands under. -/
theorem map_target_removed (h : CoherentCache settings cache)
    (outcomes : List (Target × Outcome)) :
    ((staleOf cache outcomes).entries.map (·.2.reported .removed)).map (·.target) =
      (staleOf cache outcomes).targets := by
  rw [List.map_map, TargetMap.targets]
  refine List.map_congr_left fun entry hentry => ?_
  have hheld : cache.get? entry.1 = some entry.2 :=
    TargetMap.get?_eq_some_iff.2 (List.mem_filter.1 hentry).1
  exact (h entry.1 entry.2 hheld).target_eq

/-- A run adds up what its outcomes count and what is removed. -/
theorem Ran.get_tally (h : session.Ran outcomes report next) (counter : Counter) :
    report.tally.get counter = Tally.oneRun.get counter +
      (countsOf session.cache outcomes).get counter +
      (Tally.total ((staleOf session.cache outcomes).entries.map
        fun _ => countOf .removed)).get counter := by
  rw [h.tally, Tally.get_merge, Tally.get_merge]

/-- Apart from removals the counts of outputs and failures are those of the outcomes. -/
theorem Ran.get_tally_of_ne (h : session.Ran outcomes report next) (counter : Counter)
    (hruns : counter ≠ .runs) (hremoved : counter ≠ .removed) :
    report.tally.get counter = (countsOf session.cache outcomes).get counter := by
  rw [h.get_tally, get_removed]
  cases counter with
  | runs => exact absurd rfl hruns
  | removed => exact absurd rfl hremoved
  | new | modified | cached | failed | cancelled => simp [Tally.oneRun, Tally.zero, Tally.get]

theorem Ran.counted (h : session.Ran outcomes report next) (status : UnitStatus) :
    report.tally.get status.counter = UInt32.ofNat (report.withStatus status).length := by
  cases status with
  | removed =>
    have hnone : (countsOf session.cache outcomes).get UnitStatus.removed.counter = 0 := by
      rw [get_countsOf_status, filter_removed_outputsOf]
      rfl
    rw [h.get_tally, hnone, h.withStatus_removed, List.length_map]
    show 0 + 0 + _ = _
    rw [UnitStatus.counter, get_removed]
    simp
  | new | modified | cached =>
    rw [h.withStatus_of_ne (by simp), ← get_countsOf_status]
    exact h.get_tally_of_ne _ (by simp [UnitStatus.counter]) (by simp [UnitStatus.counter])

/-- The counts of a run's candidates add up to their number. -/
theorem Ran.balance (h : session.Ran outcomes report next)
    (hfaithful : Faithful session.cache outcomes) (hlt : outcomes.length < UInt32.size) :
    report.tally.new.toNat + report.tally.modified.toNat + report.tally.cached.toNat +
      report.tally.failed.toNat + report.tally.cancelled.toNat + outcomes.countP (!·.2.isLive) =
        outcomes.length := by
  have hways := hfaithful.length_outcomes
  have houtputs := RunReport.length_outputs (outputsOf session.cache outcomes)
  rw [filter_removed_outputsOf, List.length_nil] at houtputs
  -- none of the counts can have wrapped around
  have hcount : ∀ (counter : Counter) (count : Nat), counter ≠ .runs → counter ≠ .removed →
      (countsOf session.cache outcomes).get counter = UInt32.ofNat count →
      count ≤ outcomes.length → (report.tally.get counter).toNat = count := by
    intro counter count hruns hne hget hle
    rw [h.get_tally_of_ne counter hruns hne, hget]
    exact UInt32.toNat_ofNat_of_lt' (by omega)
  have hnew := hcount .new _ (by simp) (by simp) (get_countsOf_status _ _ .new) (by omega)
  have hmodified := hcount .modified _ (by simp) (by simp) (get_countsOf_status _ _ .modified)
    (by omega)
  have hcached := hcount .cached _ (by simp) (by simp) (get_countsOf_status _ _ .cached) (by omega)
  have hfailed := hcount .failed _ (by simp) (by simp) (get_countsOf_failed _ _) (by omega)
  have hcancelled := hcount .cancelled _ (by simp) (by simp) (get_countsOf_cancelled _ _) (by omega)
  simp only [Tally.get] at hnew hmodified hcached hfailed hcancelled
  omega

/-- A run from a session with a coherent cache is balanced. -/
theorem balanced_of_ran (hcoherent : CoherentCache session.settings session.cache)
    (h : session.Ran (session.examined snapshot token) report next) :
    Balanced session snapshot token report next := by
  have hfaithful := faithful_examined hcoherent snapshot token
  have htargets : (session.examined snapshot token).map (·.1) =
      markedTargets session.settings snapshot := by
    rw [examined, map_fst_examineAll, map_target_candidates]
  have hundecorated : (session.examined snapshot token).countP (!·.2.isLive) =
      undecorated session.settings snapshot (candidates session.settings snapshot) token :=
    countP_not_isLive _ token
  have hlength : (session.examined snapshot token).length =
      (markedTargets session.settings snapshot).length := by
    rw [← htargets, List.length_map]
  refine ⟨?_, ?_, ?_, ?_, h.counted, ?_, fun hlt => ?_, ?_⟩
  · rw [h.outputs, h.failures, List.map_append, map_target_removed hcoherent]
    exact hfaithful.nodup_reported
  · rw [h.standing, h.withStatus_removed, h.outputs]
  · rw [h.standing, ← htargets]
    exact hfaithful.targets_outputsOf_sublist
  · rw [h.withStatus_removed, List.pairwise_map]
    refine (staleOf session.cache _).ordered.imp_of_mem fun {a b} ha hb hbefore => ?_
    have hkey : ∀ entry ∈ (staleOf session.cache (session.examined snapshot token)).entries,
        (entry.2.reported .removed).target = entry.1 := fun entry hentry =>
      (hcoherent _ _ (TargetMap.get?_eq_some_iff.2 (List.mem_filter.1 hentry).1)).target_eq
    rw [hkey a ha, hkey b hb]
    exact hbefore
  · rw [h.failures, ← get_countsOf_failed session.cache]
    exact h.get_tally_of_ne .failed (by simp) (by simp)
  · rw [← hundecorated, ← hlength]
    exact h.balance hfaithful (by omega)
  · have hperm := (hfaithful.targets_perm h).length_eq
    rw [List.length_append, List.length_append, List.length_map] at hperm
    rw [h.withStatus_removed, h.withStatus_of_ne (by simp), List.length_map]
    simpa [TargetMap.size, TargetMap.targets] using hperm

/-! ## Sequences of runs -/

/-- The sessions that runs lead to from a new one, with the reports of these runs in their order. -/
inductive History (settings : Settings) : List RunReport → Session → Prop where
  /-- A new session has no run behind it. -/
  | new {session : Session} (h : create settings = .ok session) : History settings [] session
  /-- A run adds its report. -/
  | run {reports : List RunReport} {session next : Session} {report : RunReport}
      (h : History settings reports session) (snapshot : Snapshot) (token : Cancellation)
      (hrun : session.run snapshot token = .ok (report, next)) :
      History settings (reports ++ [report]) next

theorem Reachable.exists_history (h : Reachable settings session) :
    ∃ reports, History settings reports session := by
  induction h with
  | new h => exact ⟨[], .new h⟩
  | run _ snapshot token hrun ih =>
    obtain ⟨reports, hreports⟩ := ih
    exact ⟨_, hreports.run snapshot token hrun⟩

namespace History

variable {reports : List RunReport}

theorem reachable (h : History settings reports session) : Reachable settings session := by
  induction h with
  | new h => exact .new h
  | run _ snapshot token hrun ih => exact ih.run snapshot token hrun

/-- Without a run behind it a session has nothing in its cache. -/
theorem cache_eq_empty (h : History settings [] session) : session.cache = .empty := by
  generalize hreports : ([] : List RunReport) = reports at h
  cases h with
  | new h =>
    obtain ⟨-, rfl⟩ := create_eq_ok_iff.1 h
    rfl
  | run => simp at hreports

/-- The marker attribute has been emitted once there was a run. -/
theorem markerEmitted_iff (h : History settings reports session) :
    session.markerEmitted = true ↔ reports ≠ [] := by
  cases h with
  | new h =>
    obtain ⟨-, rfl⟩ := create_eq_ok_iff.1 h
    simp [start]
  | run _ _ _ hrun => simp [(ran_of_run hrun).emitted]

/-- The totals of a session are the sums over its runs, as far as a counter can hold them. -/
theorem get_totals (h : History settings reports session) (counter : Counter) :
    session.totals.get counter =
      UInt32.ofNat (reports.map fun report => (report.tally.get counter).toNat).sum := by
  induction h with
  | new h =>
    obtain ⟨-, rfl⟩ := create_eq_ok_iff.1 h
    exact Tally.get_zero counter
  | run _ _ _ hrun ih =>
    rw [(ran_of_run hrun).totals, Tally.get_merge, ih, List.map_append, List.sum_append,
      UInt32.ofNat_add]
    simp

end History

/-- Runs account for what they do. At any time the totals of a session are the sums over its runs,
and any run from there reports the marker attribute exactly if it is the first one, reports nothing
twice, counts what it reports, and balances with its candidates and with the cache. -/
theorem balanced_of_history {reports : List RunReport} (h : History settings reports session) :
    (∀ counter, session.totals.get counter =
      UInt32.ofNat (reports.map fun report => (report.tally.get counter).toNat).sum) ∧
    ∀ snapshot token, ∃ report next, session.run snapshot token = .ok (report, next) ∧
      session.settings = settings ∧ session.Balanced snapshot token report next ∧
      (report.marker.isSome = true ↔ reports = []) := by
  refine ⟨h.get_totals, fun snapshot token => ?_⟩
  obtain ⟨report, next, hrun, hran⟩ := session.run_eq snapshot token
  have hsettings := h.reachable.settings_eq.2
  have hcoherent := h.reachable.coherentCache
  rw [← hsettings] at hcoherent
  refine ⟨report, next, hrun, hsettings, balanced_of_ran hcoherent hran, ?_⟩
  have hemitted := h.markerEmitted_iff
  rw [hran.marker]
  cases hmarker : session.markerEmitted with
  | false =>
    rw [hmarker] at hemitted
    simpa using hemitted
  | true =>
    rw [hmarker] at hemitted
    simpa using hemitted

/-- A session that has run over one type accounts for a second run, in which the type is gone. -/
theorem balanced_of_history_store : ∃ first session, History .default [first] session ∧
    session.cache.targets = [storeTarget] ∧
    session.totals.get .new = UInt32.ofNat ([first].map fun report => report.tally.new.toNat).sum ∧
    ∃ report next, session.run { types := [], interfaces := [] } .fresh = .ok (report, next) ∧
      session.Balanced { types := [], interfaces := [] } .fresh report next ∧
      report.marker.isSome = false := by
  obtain ⟨first, session, hrun, htargets⟩ := run_store
  have hhistory : History .default [first] session := (History.new create_default).run _ _ hrun
  obtain ⟨htotals, hruns⟩ := balanced_of_history hhistory
  obtain ⟨report, next, hsecond, -, hbalanced, hmarker⟩ :=
    hruns { types := [], interfaces := [] } .fresh
  refine ⟨first, session, hhistory, htargets, htotals .new, report, next, hsecond,
    hbalanced, ?_⟩
  simpa using hmarker

end Session

end Forwarder
