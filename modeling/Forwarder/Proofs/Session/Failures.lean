import Forwarder.Proofs.Session.DeclarationOrder
import Forwarder.Proofs.Session.UnitNames
import Forwarder.Proofs.Source.Lines

/-!
# Candidates that fail

No run fails as a whole, and there is only one way for a candidate to fail: it has a decorator, and
the unit of that decorator would have the name of the marker attribute's. With valid settings the
name of the marker attribute has no dot in it, so such a candidate stands in the global namespace and
is called like the marker. The cache is coherent and never holds an output for it, so nothing keeps
it from failing again in every run that gets to it.
-/

namespace Forwarder

open Text

/-- The failure of a decorator whose unit would be called like the marker attribute's. -/
def Settings.reservedName (settings : Settings) : Failure :=
  .invalidSymbol settings.markerName
    ("unit name " ++ settings.markerUnitName ++ " is reserved for the marker attribute")

namespace TypeDecl

variable {settings : Settings} {snapshot : Snapshot} {type : TypeDecl}

/-! ## Types that are called like the marker -/

/-- A type stands in the global namespace and has the name of the marker attribute. -/
def IsNamedLikeMarker (type : TypeDecl) (settings : Settings) : Prop :=
  (type.scope = none ∨ type.scope = some "") ∧ type.name = settings.markerName

instance (type : TypeDecl) (settings : Settings) : Decidable (type.IsNamedLikeMarker settings) := by
  unfold IsNamedLikeMarker
  infer_instance

theorem declaredScope_target (type : TypeDecl) :
    type.target.declaredScope = type.scope.filter (· ≠ "") := by
  unfold target aliasedScope Target.declaredScope
  rw [Option.map_map]
  have hstrip : stripGlobal ∘ (globalAlias ++ ·) = id := funext stripGlobal_globalAlias_append
  rw [hstrip, Option.map_id, id]

/-- The target of a type has no namespace to write exactly if the type is in the global one. -/
theorem declaredScope_target_iff (type : TypeDecl) :
    (type.target.declaredScope = none ∨ type.target.declaredScope = some "") ↔
      type.scope = none ∨ type.scope = some "" := by
  rw [declaredScope_target]
  cases type.scope with
  | none => simp
  | some scope =>
    by_cases hempty : scope = ""
    · simp [hempty]
    · simp [Option.filter, hempty]

/-- With valid settings the unit of a type is called like the marker attribute's exactly if the type
is called like the marker attribute. -/
theorem unitName_eq_markerUnitName_iff (h : settings.Valid) (type : TypeDecl) :
    type.target.unitName settings.unitSuffix = settings.markerUnitName ↔
      type.IsNamedLikeMarker settings := by
  rw [Target.unitName_eq_markerUnitName_iff h, declaredScope_target_iff]
  rfl

theorem IsNamedLikeMarker.display_target (h : type.IsNamedLikeMarker settings) :
    type.target.display = settings.markerName := by
  obtain ⟨hscope, hname⟩ := h
  have hnone : type.target.declaredScope = none := by
    rw [declaredScope_target]
    rcases hscope with hscope | hscope
    · rw [hscope]
      rfl
    · rw [hscope]
      rfl
  unfold Target.display
  rw [hnone]
  exact hname

theorem sourceUnit_of_decorator? {decorator : Decorator} (hvalid : settings.Valid)
    (h : type.decorator? snapshot settings = some decorator) :
    decorator.sourceUnit settings =
      if type.IsNamedLikeMarker settings then .error settings.reservedName
      else .ok ⟨type.target.unitName settings.unitSuffix, decorator.sourceText⟩ := by
  rw [Decorator.sourceUnit_eq, target_of_decorator? h]
  by_cases hnamed : type.IsNamedLikeMarker settings
  · have hname := (unitName_eq_markerUnitName_iff hvalid type).2 hnamed
    rw [if_pos hname, if_pos hnamed, hnamed.display_target]
    rfl
  · have hname := mt (unitName_eq_markerUnitName_iff hvalid type).1 hnamed
    rw [if_neg hname, if_neg hnamed]

/-- A type is called like the marker attribute, and there is a decorator to make of it. -/
def Clashes (type : TypeDecl) (settings : Settings) (snapshot : Snapshot) : Prop :=
  type.IsNamedLikeMarker settings ∧ (Decorator.derive? snapshot settings type).isSome

instance (type : TypeDecl) (settings : Settings) (snapshot : Snapshot) :
    Decidable (type.Clashes settings snapshot) := by
  unfold Clashes
  infer_instance

end TypeDecl

namespace Session

variable {settings : Settings} {session : Session} {cache : Cache} {snapshot : Snapshot}
  {token : Cancellation} {type : TypeDecl}

/-! ## One candidate -/

/-- A coherent cache holds nothing for a type that is called like the marker attribute. -/
theorem CoherentCache.get?_eq_none (hcache : CoherentCache settings cache)
    (hvalid : settings.Valid) (hnamed : type.IsNamedLikeMarker settings) :
    cache.get? type.target = none := by
  by_contra hsome
  obtain ⟨entry, hentry⟩ := Option.ne_none_iff_exists'.1 hsome
  have hcoherent := hcache _ _ hentry
  refine hcoherent.name_ne ?_
  rw [hcoherent.name_eq]
  exact (TypeDecl.unitName_eq_markerUnitName_iff hvalid type).2 hnamed

theorem settle_of_clashes (hcache : CoherentCache settings cache) (hvalid : settings.Valid)
    (h : type.Clashes settings snapshot) :
    settle settings snapshot type (cache.get? type.target) = .failed settings.reservedName := by
  obtain ⟨hnamed, hsome⟩ := h
  rw [Decorator.derive?_eq] at hsome
  obtain ⟨decorator, hdecorator⟩ := Option.isSome_iff_exists.1 hsome
  have hnew : (none : Option CachedOutput).map (·.decorator) ≠ some decorator := nofun
  unfold settle
  rw [hdecorator, hcache.get?_eq_none hvalid hnamed]
  simp only [if_neg hnew]
  unfold generateEntry
  rw [TypeDecl.sourceUnit_of_decorator? hvalid hdecorator, if_pos hnamed]

theorem settle_ne_failed (hvalid : settings.Valid) (h : ¬ type.Clashes settings snapshot)
    (cached : Option CachedOutput) (failure : Failure) :
    settle settings snapshot type cached ≠ .failed failure := by
  unfold settle
  cases hdecorator : type.decorator? snapshot settings with
  | none => exact Outcome.noConfusion
  | some decorator =>
    have hnamed : ¬ type.IsNamedLikeMarker settings := by
      intro hnamed
      refine h ⟨hnamed, ?_⟩
      rw [Decorator.derive?_eq, hdecorator]
      rfl
    by_cases hsame : cached.map (·.decorator) = some decorator
    · simp only [if_pos hsame]
      exact Outcome.noConfusion
    · simp only [if_neg hsame]
      unfold generateEntry
      rw [TypeDecl.sourceUnit_of_decorator? hvalid hdecorator, if_neg hnamed]
      exact Outcome.noConfusion

/-- A settled candidate fails exactly if it clashes, provided that the cache is coherent. -/
theorem failure?_settle (hcache : CoherentCache settings cache) (hvalid : settings.Valid)
    (snapshot : Snapshot) (type : TypeDecl) :
    (settle settings snapshot type (cache.get? type.target)).failure? type.target =
      if type.Clashes settings snapshot then
        some ⟨type.target, settings.reservedName.message⟩ else none := by
  by_cases hclash : type.Clashes settings snapshot
  · rw [if_pos hclash, settle_of_clashes hcache hvalid hclash]
    rfl
  · rw [if_neg hclash]
    have hnever := settle_ne_failed hvalid hclash (cache.get? type.target)
    cases houtcome : settle settings snapshot type (cache.get? type.target) with
    | failed failure => exact absurd houtcome (hnever failure)
    | nothing | unchanged | generated _ | cancelled => rfl

/-! ## All candidates -/

/-- The candidates of a snapshot that clash with the marker attribute, as they are reported. -/
def clashes (settings : Settings) (snapshot : Snapshot) : List FailedTarget :=
  ((candidates settings snapshot).filter fun type => type.Clashes settings snapshot).map
    fun type => ⟨type.target, settings.reservedName.message⟩

theorem mem_clashes {failed : FailedTarget} :
    failed ∈ clashes settings snapshot ↔
      ∃ type ∈ candidates settings snapshot, type.Clashes settings snapshot ∧
        ⟨type.target, settings.reservedName.message⟩ = failed := by
  unfold clashes
  simp only [List.mem_map, List.mem_filter, decide_eq_true_eq, and_assoc]

/-- With any token, only candidates that clash fail. -/
theorem failuresOf_examined_subset (hcache : CoherentCache session.settings session.cache)
    (hvalid : session.settings.Valid) (snapshot : Snapshot) (token : Cancellation) :
    failuresOf (session.examined snapshot token) ⊆ clashes session.settings snapshot := by
  intro failed hfailed
  obtain ⟨⟨target, outcome⟩, hentry, hfailure⟩ := List.mem_filterMap.1 hfailed
  obtain ⟨type, htype, rfl, hcancelled | hsettled⟩ := exists_of_mem_examineAll hentry
  · rw [hcancelled] at hfailure
    cases hfailure
  · simp only [hsettled, failure?_settle hcache hvalid] at hfailure
    split at hfailure
    · rename_i hclash
      exact mem_clashes.2 ⟨type, htype, hclash, Option.some.inj hfailure⟩
    · cases hfailure

/-- On a fresh token the failures are the clashes, in the order of the candidates. -/
theorem failuresOf_examined_fresh (hcache : CoherentCache session.settings session.cache)
    (hvalid : session.settings.Valid) (snapshot : Snapshot) :
    failuresOf (session.examined snapshot .fresh) = clashes session.settings snapshot := by
  have hsettled : failuresOf (session.examined snapshot .fresh) =
      (candidates session.settings snapshot).filterMap fun type =>
        if type.Clashes session.settings snapshot then
          some ⟨type.target, session.settings.reservedName.message⟩ else none := by
    rw [examined_fresh, failuresOf, List.filterMap_map]
    exact List.filterMap_congr fun type _ => failure?_settle hcache hvalid snapshot type
  rw [hsettled, clashes]
  induction candidates session.settings snapshot with
  | nil => rfl
  | cons type rest ih =>
    by_cases hclash : type.Clashes session.settings snapshot
    · rw [List.filter_cons_of_pos (by simpa using hclash), List.map_cons, ← ih]
      simp only [List.filterMap_cons, if_pos hclash]
    · rw [List.filter_cons_of_neg (by simpa using hclash), ← ih]
      simp only [List.filterMap_cons, if_neg hclash]

/-- A run always has a report, and with any token the candidates that it reports as failed are among
those that are called like the marker attribute and have a decorator. A run that is not cut short
reports all of these, in the order of the candidates. The cache never holds an output for a type that
is called like the marker attribute. -/
theorem failures_eq_clashes (h : Reachable settings session) (snapshot : Snapshot)
    (token : Cancellation) :
    ∃ report next, session.run snapshot token = .ok (report, next) ∧
      report.failures ⊆ clashes settings snapshot ∧
      (session.Completes snapshot token → report.failures = clashes settings snapshot) ∧
      ∀ type : TypeDecl, type.IsNamedLikeMarker settings →
        session.cache.get? type.target = none ∧ next.cache.get? type.target = none := by
  obtain ⟨report, next, hrun, hran⟩ := session.run_eq snapshot token
  have hafter := (h.run snapshot token hrun).coherentCache
  have hcache := h.coherentCache
  obtain ⟨hvalid, rfl⟩ := h.settings_eq
  refine ⟨report, next, hrun, ?_, ?_, ?_⟩
  · rw [hran.failures]
    exact failuresOf_examined_subset hcache hvalid snapshot token
  · intro hcompletes
    rw [hran.failures, hcompletes.examined_eq]
    exact failuresOf_examined_fresh hcache hvalid snapshot
  · intro type hnamed
    exact ⟨hcache.get?_eq_none hvalid hnamed, hafter.get?_eq_none hvalid hnamed⟩

/-- A snapshot with three marked types that declare an interface. Two of them have the name of the
marker attribute, but only one of these is in the global namespace. -/
def markerSnapshot : Snapshot where
  types := [(some "Shop", "GenericDecoratorAttribute"), (none, "GenericDecoratorAttribute"),
    (none, "StoreDecorator")].map fun (scope, name) => { TypeDecl.ofClass scope name with
      attributes := ["Decorgen.GenericDecoratorAttribute"]
      interfaces := [.plain (some "Shop") "IStore"] }
  interfaces := storeSnapshot.interfaces

/-- Of the types of `markerSnapshot` the second one alone fails, also in a session that has run
before and with a token that lets six checks pass. -/
theorem failures_eq_clashes_marker : ∃ session report next,
    Reachable .default session ∧ session.cache.targets = [storeTarget] ∧
    session.Completes markerSnapshot (.allowing 6) ∧
    session.run markerSnapshot (.allowing 6) = .ok (report, next) ∧
    report.failures = [⟨⟨none, "GenericDecoratorAttribute"⟩,
      "Invalid symbol 'GenericDecoratorAttribute': unit name GenericDecoratorAttribute.g.cs " ++
        "is reserved for the marker attribute"⟩] ∧
    next.cache.get? ⟨none, "GenericDecoratorAttribute"⟩ = none := by
  obtain ⟨first, session, hfirst, htargets⟩ := run_store
  have hreach : Reachable .default session := (Reachable.new create_default).run _ _ hfirst
  have hsettings := hreach.settings_eq.2
  have hcompletes : session.Completes markerSnapshot (.allowing 6) := by
    intro entry hentry
    rw [examined, hsettings, examineAll_eq] at hentry
    obtain ⟨position, hposition, rfl⟩ := List.mem_mapIdx.1 hentry
    have hlength : (candidates .default markerSnapshot).length = 3 := by decide +kernel
    have hpermits : ∀ position < 3, (Cancellation.allowing 6).Permits
        (checksThrough markerSnapshot (candidates .default markerSnapshot) position) := by
      decide +kernel
    have hpass := hpermits position (hlength ▸ hposition)
    simp only [outcomeAt, hpass, not_true_eq_false, and_false, if_false]
    exact settle_ne_cancelled _ _ _ _
  obtain ⟨report, next, hrun, -, hfailures, hnone⟩ :=
    failures_eq_clashes hreach markerSnapshot (.allowing 6)
  refine ⟨session, report, next, hreach, htargets, hcompletes, hrun, ?_, ?_⟩
  · rw [hfailures hcompletes]
    decide +kernel
  · exact (hnone (.ofClass none "GenericDecoratorAttribute") (by decide)).2

end Session

end Forwarder
