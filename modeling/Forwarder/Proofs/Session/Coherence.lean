import Forwarder.Proofs.Session.Commitment

/-!
# Coherence of the cache

Whatever runs a session has been through, every entry of its cache is one that the settings give for
the target it stands under: the source generated from the entry's own decorator, under the unit name
of the target, with the fingerprint of its text. An entry enters the cache only when its source has
been generated, and from then on it stays as it is until it is replaced or removed. Outputs are
reported from entries, so they are coherent as well.
-/

namespace Forwarder

/-! ## Coherent entries and outputs -/

/-- What the settings demand of an entry that stands under a target. -/
structure CachedOutput.Coherent (settings : Settings) (target : Target) (entry : CachedOutput) :
    Prop where
  /-- The decorator is one for the target. -/
  target_eq : entry.decorator.target = target
  /-- The unit is generated from the decorator. -/
  unit_eq : entry.decorator.sourceUnit settings = .ok entry.unit
  /-- The unit has the name of the target. -/
  name_eq : entry.unit.name = target.unitName settings.unitSuffix
  /-- The fingerprint is that of the unit's text. -/
  fingerprint_eq : entry.fingerprint = Forwarder.fingerprint entry.unit.text
  /-- The name is not that of the marker attribute's unit. -/
  name_ne : entry.unit.name ≠ settings.markerUnitName

/-- What the settings demand of a reported output. -/
structure ReportedUnit.Coherent (settings : Settings) (output : ReportedUnit) : Prop where
  /-- The text is generated, under the name, from a decorator for the target. -/
  generated : ∃ decorator : Decorator, decorator.target = output.target ∧
    decorator.sourceUnit settings = .ok ⟨output.name, output.text⟩
  /-- The name is that of the target. -/
  name_eq : output.name = output.target.unitName settings.unitSuffix
  /-- The fingerprint is that of the text. -/
  fingerprint_eq : output.fingerprint = Forwarder.fingerprint output.text
  /-- The name is not that of the marker attribute's unit. -/
  name_ne : output.name ≠ settings.markerUnitName

namespace CachedOutput

variable {settings : Settings} {target : Target} {entry : CachedOutput}

/-- An entry whose unit is generated and fingerprinted is coherent under its own target. -/
theorem coherent_of_sourceUnit {decorator : Decorator} {unit : SourceUnit}
    (h : decorator.sourceUnit settings = .ok unit) :
    CachedOutput.Coherent settings decorator.target
      { decorator, unit, fingerprint := unit.fingerprint } := by
  have hunit := h
  rw [Decorator.sourceUnit_eq] at hunit
  split at hunit
  · cases hunit
  · rename_i hname
    cases hunit
    exact ⟨rfl, h, rfl, rfl, hname⟩

theorem Coherent.target_reported (h : entry.Coherent settings target) (status : UnitStatus) :
    (entry.reported status).target = target :=
  h.target_eq

theorem Coherent.reported (h : entry.Coherent settings target) (status : UnitStatus) :
    (entry.reported status).Coherent settings where
  generated := ⟨entry.decorator, rfl, h.unit_eq⟩
  name_eq := by
    show entry.unit.name = entry.decorator.target.unitName settings.unitSuffix
    rw [h.target_eq, h.name_eq]
  fingerprint_eq := h.fingerprint_eq
  name_ne := h.name_ne

/-- A coherent entry is determined by its decorator. -/
theorem Coherent.eq_of_decorator {unit : SourceUnit} (h : entry.Coherent settings target)
    (hunit : entry.decorator.sourceUnit settings = .ok unit) :
    entry = { decorator := entry.decorator, unit, fingerprint := unit.fingerprint } := by
  obtain ⟨decorator, held, fingerprint⟩ := entry
  have heq : held = unit := Except.ok.inj (h.unit_eq.symm.trans hunit)
  have hfingerprint : fingerprint = Forwarder.fingerprint held.text := h.fingerprint_eq
  subst heq
  subst hfingerprint
  rfl

end CachedOutput

namespace Session

variable {settings : Settings} {session : Session}

/-! ## Coherent caches -/

/-- Every entry of a cache is coherent. -/
def CoherentCache (settings : Settings) (cache : Cache) : Prop :=
  ∀ target entry, cache.get? target = some entry → entry.Coherent settings target

/-- An output that a settled candidate has generated is coherent under the candidate's target. -/
theorem coherent_of_settle {snapshot : Snapshot} {type : TypeDecl} {cached : Option CachedOutput}
    {entry : CachedOutput} (h : settle settings snapshot type cached = .generated entry) :
    entry.Coherent settings type.target := by
  rw [settle] at h
  cases hdecorator : type.decorator? snapshot settings with
  | none =>
    rw [hdecorator] at h
    cases h
  | some decorator =>
    rw [hdecorator] at h
    simp only at h
    split at h
    · cases h
    · rw [generateEntry] at h
      cases hunit : decorator.sourceUnit settings with
      | error failure =>
        rw [hunit] at h
        cases h
      | ok unit =>
        rw [hunit] at h
        cases h
        rw [← TypeDecl.target_of_decorator? hdecorator]
        exact CachedOutput.coherent_of_sourceUnit hunit

/-- What the first phase of a run has generated is coherent. -/
theorem coherent_of_mem_examined {snapshot : Snapshot} {token : Cancellation} {target : Target}
    {outcome : Outcome} (h : (target, outcome) ∈ session.examined snapshot token)
    (entry : CachedOutput) (hmade : outcome = .generated entry) :
    entry.Coherent session.settings target := by
  obtain ⟨type, -, rfl, hcancelled | hsettled⟩ := exists_of_mem_examineAll h
  · rw [hcancelled] at hmade
    cases hmade
  · exact coherent_of_settle (hsettled.symm.trans hmade)

/-- What outcomes leave in a coherent cache is coherent, if what they have generated is. -/
theorem coherent_of_left {target : Target} {outcome : Outcome} {cached : Option CachedOutput}
    {entry : CachedOutput} (hcached : ∀ entry ∈ cached, entry.Coherent settings target)
    (hmade : ∀ entry, outcome = .generated entry → entry.Coherent settings target)
    (h : outcome.left cached = some entry) : entry.Coherent settings target := by
  cases outcome with
  | nothing => cases h
  | generated made =>
    obtain rfl : made = entry := Option.some.inj h
    exact hmade made rfl
  | unchanged | cancelled | failed _ => exact hcached entry h

/-- What an outcome reports over a coherent cache is the report of a coherent entry. -/
theorem exists_of_output? {target : Target} {outcome : Outcome} {cached : Option CachedOutput}
    {output : ReportedUnit} (hcached : ∀ entry ∈ cached, entry.Coherent settings target)
    (hmade : ∀ entry, outcome = .generated entry → entry.Coherent settings target)
    (h : outcome.output? cached = some output) :
    ∃ entry : CachedOutput, entry.Coherent settings target ∧
      ∃ status, output = entry.reported status := by
  cases outcome with
  | unchanged =>
    obtain ⟨entry, hentry, rfl⟩ := Option.map_eq_some_iff.1 h
    exact ⟨entry, hcached entry hentry, .cached, rfl⟩
  | generated made =>
    obtain rfl := Option.some.inj h
    exact ⟨made, hmade made rfl, _, rfl⟩
  | nothing | cancelled | failed _ => cases h

/-- A run keeps the cache coherent, and reports only coherent outputs. -/
theorem coherent_of_ran {snapshot : Snapshot} {token : Cancellation} {report : RunReport}
    {next : Session} (hcache : CoherentCache session.settings session.cache)
    (h : session.Ran (session.examined snapshot token) report next) :
    CoherentCache session.settings next.cache ∧
      ∀ output ∈ report.outputs, output.Coherent session.settings := by
  have hnodup := session.nodup_examined snapshot token
  constructor
  · intro target entry hentry
    rw [h.cache] at hentry
    obtain ⟨outcome, hlookup, hleft⟩ := Option.bind_eq_some_iff.1 hentry
    have hmem := (lookup_eq_some_iff_mem hnodup).1 hlookup
    exact coherent_of_left (hcache target) (coherent_of_mem_examined hmem) hleft
  · intro output houtput
    rw [h.outputs] at houtput
    rcases List.mem_append.1 houtput with hfound | hremoved
    · obtain ⟨⟨target, outcome⟩, hmem, hreport⟩ := List.mem_filterMap.1 hfound
      obtain ⟨entry, hentry, status, rfl⟩ := exists_of_output? (hcache target)
        (coherent_of_mem_examined hmem) hreport
      exact hentry.reported status
    · obtain ⟨⟨target, entry⟩, hmem, rfl⟩ := List.mem_map.1 hremoved
      have hcached : session.cache.get? target = some entry :=
        TargetMap.get?_eq_some_iff.2 (List.mem_filter.1 hmem).1
      exact (hcache target entry hcached).reported .removed

/-! ## Reachable sessions -/

/-- The sessions that runs lead to from a new one, over any snapshots and with any tokens. -/
inductive Reachable (settings : Settings) : Session → Prop where
  /-- A new session is reachable. -/
  | new {session : Session} (h : create settings = .ok session) : Reachable settings session
  /-- A run leads on from a reachable session. -/
  | run {session next : Session} {report : RunReport} (h : Reachable settings session)
      (snapshot : Snapshot) (token : Cancellation)
      (hrun : session.run snapshot token = .ok (report, next)) : Reachable settings next

/-- A session can be created exactly with valid settings, and then it is an empty one. -/
theorem create_eq_ok_iff {settings : Settings} {session : Session} :
    create settings = .ok session ↔ settings.Valid ∧ session = start settings := by
  rw [create, ← settings.validate_eq_ok_iff]
  cases settings.validate with
  | error failure => simp [bind, Except.bind]
  | ok value => simp [bind, Except.bind, pure, Except.pure, eq_comm]

/-- The settings of a session are valid, and they stay. -/
theorem Reachable.settings_eq (h : Reachable settings session) :
    settings.Valid ∧ session.settings = settings := by
  induction h with
  | new h =>
    obtain ⟨hvalid, rfl⟩ := create_eq_ok_iff.1 h
    exact ⟨hvalid, rfl⟩
  | run _ _ _ hrun ih => exact ⟨ih.1, (ran_of_run hrun).settings.trans ih.2⟩

/-- The cache of a reachable session is coherent. -/
theorem Reachable.coherentCache (h : Reachable settings session) :
    CoherentCache settings session.cache := by
  induction h with
  | new h =>
    obtain ⟨-, rfl⟩ := create_eq_ok_iff.1 h
    intro target entry hentry
    cases hentry
  | run hreach _ _ hrun ih =>
    rw [← hreach.settings_eq.2] at ih ⊢
    exact (coherent_of_ran ih (ran_of_run hrun)).1

/-- A snapshot with one marked type, which declares one interface with one method. -/
def storeSnapshot : Snapshot where
  types := [{ TypeDecl.ofClass (some "Shop") "StoreDecorator" with
    attributes := ["Decorgen.GenericDecoratorAttribute"]
    interfaces := [.plain (some "Shop") "IStore"] }]
  interfaces := [.inScope (some "Shop") "IStore" [] [.method (.returning "Count" .void)]]

/-- The target of the one type of `storeSnapshot`. -/
def storeTarget : Target := ⟨some "global::Shop", "StoreDecorator"⟩

theorem create_default : create .default = .ok (start .default) :=
  create_eq_ok_iff.2 ⟨by decide +kernel, rfl⟩

theorem run_store : ∃ report session,
    (start .default).run storeSnapshot .fresh = .ok (report, session) ∧
    session.cache.targets = [storeTarget] := by
  obtain ⟨report, session, hrun, -⟩ := (start .default).run_eq storeSnapshot .fresh
  refine ⟨report, session, hrun, ?_⟩
  have htargets : ((start .default).run storeSnapshot .fresh).toOption.map
      (fun ran => ran.2.cache.targets) = some [storeTarget] := by decide +kernel
  rw [hrun] at htargets
  exact Option.some.inj htargets

/-- A session that has run over `storeSnapshot` has an output for its type. -/
theorem exists_reachable_store : ∃ session, Reachable .default session ∧
    session.cache.targets = [storeTarget] := by
  obtain ⟨report, session, hrun, htargets⟩ := run_store
  exact ⟨session, (Reachable.new create_default).run _ _ hrun, htargets⟩

/-- In every reachable session all entries of the cache are coherent, and so is all that any run
from there reports, whether new, modified, cached or removed. -/
theorem coherent_of_reachable (h : Reachable settings session) :
    session.settings = settings ∧
      (∀ entry ∈ session.cache.entries, entry.2.Coherent settings entry.1) ∧
      ∀ snapshot token, ∃ report next, session.run snapshot token = .ok (report, next) ∧
        ∀ output ∈ report.outputs, output.Coherent settings := by
  have hsettings := h.settings_eq.2
  refine ⟨hsettings, fun entry hentry => ?_, fun snapshot token => ?_⟩
  · exact h.coherentCache entry.1 entry.2 (TargetMap.get?_eq_some_iff.2 hentry)
  · obtain ⟨report, next, hrun, hran⟩ := session.run_eq snapshot token
    have hcache := h.coherentCache
    rw [← hsettings] at hcache ⊢
    exact ⟨report, next, hrun, (coherent_of_ran hcache hran).2⟩

/-- There is a reachable session with an entry, and the entry is coherent. -/
theorem coherent_of_reachable_store : ∃ session entry, Reachable .default session ∧
    (storeTarget, entry) ∈ session.cache.entries ∧ entry.Coherent .default storeTarget := by
  obtain ⟨session, hreach, htargets⟩ := exists_reachable_store
  have hmem : storeTarget ∈ session.cache.targets := by rw [htargets]; exact List.mem_singleton_self _
  obtain ⟨⟨target, entry⟩, hentry, rfl⟩ := List.mem_map.1 hmem
  exact ⟨session, entry, hreach, hentry, (coherent_of_reachable hreach).2.1 _ hentry⟩

end Session

end Forwarder
