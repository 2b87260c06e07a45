import Mathlib.Data.List.Nodup
import Forwarder.Proofs.Session.Accounting

/-!
# Names of units across targets

The name of a unit is the dotted name of its target with a suffix, so two targets share a unit
exactly if their dotted names are the same. That happens: `B.C` in the namespace `A` and `C` in the
namespace `A.B` are two targets with one unit, and nothing keeps a host from reporting a type name
with a dot in it. Among types whose names have no dots every target has a unit of its own.
-/

namespace Forwarder

open Text

/-! ## Dotted names -/

/-- Parts that are joined by a dot can be told apart if the last one has no dot in it. -/
theorem append_dot_injective {s t m n : List Char} (hm : '.' ∉ m) (hn : '.' ∉ n)
    (h : s ++ '.' :: m = t ++ '.' :: n) : s = t ∧ m = n := by
  rcases List.append_eq_append_iff.1 h with ⟨between, rfl, hrest⟩ | ⟨between, rfl, hrest⟩
  · cases between with
    | nil =>
      obtain ⟨-, rfl⟩ := List.cons.inj hrest
      exact ⟨(List.append_nil s).symm, rfl⟩
    | cons c between =>
      obtain ⟨-, rfl⟩ := List.cons.inj hrest
      exact absurd (by simp) hm
  · cases between with
    | nil =>
      obtain ⟨-, rfl⟩ := List.cons.inj hrest
      exact ⟨List.append_nil t, rfl⟩
    | cons c between =>
      obtain ⟨-, rfl⟩ := List.cons.inj hrest
      exact absurd (by simp) hn

namespace Target

/-- A target is one of a candidate type: it has no namespace or one behind the global alias. -/
def IsDeclared (target : Target) : Prop := ∃ type : TypeDecl, type.target = target

/-- A declared target stands in the global namespace, or in a namespace that has a name. -/
theorem IsDeclared.scope_eq {target : Target} (h : target.IsDeclared) :
    target.scope = none ∨ ∃ scope, scope ≠ "" ∧ target.scope = some (globalAlias ++ scope) := by
  obtain ⟨type, rfl⟩ := h
  rw [TypeDecl.target, aliasedScope]
  cases type.scope with
  | none => exact Or.inl rfl
  | some scope =>
    by_cases hempty : scope = ""
    · subst hempty
      exact Or.inl rfl
    · refine Or.inr ⟨scope, hempty, ?_⟩
      simp [Option.filter, hempty]

/-- The name of a unit is the dotted name of its target with the suffix. -/
theorem IsDeclared.unitName_eq {target : Target} (h : target.IsDeclared) (suffix : String) :
    target.unitName suffix = target.display ++ suffix := by
  rcases h.scope_eq with hscope | ⟨scope, hne, hscope⟩
  · simp [unitName, unitNameOf, display, declaredScope, hscope]
  · simp only [unitName, unitNameOf, display, declaredScope, hscope, Option.map_some,
      stripGlobal_globalAlias_append]

/-- The name of a target has no dot in it. -/
def IsSimple (target : Target) : Prop := '.' ∉ target.name.toList

instance (target : Target) : Decidable target.IsSimple := by
  unfold IsSimple
  infer_instance

/-- Declared targets share a unit exactly if their dotted names are the same. -/
theorem IsDeclared.unitName_eq_iff {a b : Target} (ha : a.IsDeclared) (hb : b.IsDeclared)
    (suffix : String) : a.unitName suffix = b.unitName suffix ↔ a.display = b.display := by
  rw [ha.unitName_eq, hb.unitName_eq]
  constructor
  · intro h
    have hlist := congrArg String.toList h
    rw [String.toList_append, String.toList_append] at hlist
    exact String.toList_injective (List.append_cancel_right hlist)
  · intro h
    rw [h]

/-- Declared targets with simple names have different dotted names. -/
theorem eq_of_display_eq {a b : Target} (ha : a.IsDeclared) (hb : b.IsDeclared) (hsa : a.IsSimple)
    (hsb : b.IsSimple) (h : a.display = b.display) : a = b := by
  obtain ⟨scopeA, nameA⟩ := a
  obtain ⟨scopeB, nameB⟩ := b
  have hdotted : ∀ (s n : String), (s ++ "." ++ n).toList = s.toList ++ '.' :: n.toList := by
    intro s n
    simp
  rcases ha.scope_eq with hscopeA | ⟨s, -, hscopeA⟩ <;>
    rcases hb.scope_eq with hscopeB | ⟨t, -, hscopeB⟩ <;>
    simp only at hscopeA hscopeB <;> subst hscopeA <;> subst hscopeB <;>
    simp only [display, declaredScope, Option.map_none, Option.map_some,
      stripGlobal_globalAlias_append] at h
  · rw [h]
  · -- a dotted name is not a name without a dot
    subst h
    refine absurd ?_ hsa
    rw [hdotted]
    simp
  · subst h
    refine absurd ?_ hsb
    rw [hdotted]
    simp
  · have hlist := congrArg String.toList h
    rw [hdotted, hdotted] at hlist
    obtain ⟨hscope, hname⟩ := append_dot_injective hsa hsb hlist
    obtain rfl : s = t := String.toList_injective hscope
    obtain rfl : nameA = nameB := String.toList_injective hname
    rfl

end Target

namespace Session

variable {settings : Settings} {session next : Session} {snapshot : Snapshot}
  {token : Cancellation} {report : RunReport}

/-! ## Targets of sessions -/

/-- Every target that a run leaves in the cache was there before or is that of a marked type. -/
theorem Ran.mem_targets (h : session.Ran (session.examined snapshot token) report next)
    {target : Target} (hmem : target ∈ next.cache.targets) :
    target ∈ session.cache.targets ∨
      target ∈ (snapshot.marked session.settings.markerAttribute).map (·.target) := by
  have hnodup := session.nodup_examined snapshot token
  obtain ⟨value, hvalue⟩ := TargetMap.mem_targets_iff.1 hmem
  rw [h.cache] at hvalue
  obtain ⟨outcome, hlookup, -⟩ := Option.bind_eq_some_iff.1 hvalue
  have hentry := (lookup_eq_some_iff_mem hnodup).1 hlookup
  obtain ⟨type, htype, rfl, -⟩ := exists_of_mem_examineAll hentry
  have htarget : type.target ∈ markedTargets session.settings snapshot := by
    rw [← map_target_candidates]
    exact List.mem_map_of_mem htype
  exact Or.inr (List.mem_eraseDups.1 htarget)

/-- Every target that a run reports was in the cache before or is that of a marked type. -/
theorem Balanced.mem_of_mem_outputs (h : Balanced session snapshot token report next)
    (hran : session.Ran (session.examined snapshot token) report next)
    (hcoherent : CoherentCache session.settings session.cache) {output : ReportedUnit}
    (hmem : output ∈ report.outputs) : output.target ∈ session.cache.targets ∨
      output.target ∈ (snapshot.marked session.settings.markerAttribute).map (·.target) := by
  rw [h.removedLast] at hmem
  rcases List.mem_append.1 hmem with hstanding | hremoved
  · have htarget := h.inOrder.subset (List.mem_map_of_mem hstanding)
    exact Or.inr (List.mem_eraseDups.1 htarget)
  · left
    rw [hran.withStatus_removed] at hremoved
    have htarget := List.mem_map_of_mem (f := (·.target)) hremoved
    rw [map_target_removed hcoherent] at htarget
    obtain ⟨value, hvalue⟩ := TargetMap.mem_targets_iff.1 htarget
    rw [staleOf, TargetMap.get?_filter] at hvalue
    refine TargetMap.mem_targets_iff.2 ⟨value, ?_⟩
    split at hvalue
    · exact hvalue
    · cases hvalue

/-- A candidate fails only because its unit has the name of the marker attribute's. -/
theorem Ran.unitName_of_mem_failures
    (h : session.Ran (session.examined snapshot token) report next) {target : Target}
    (hmem : target ∈ report.failures.map (·.target)) :
    target ∈ (snapshot.marked session.settings.markerAttribute).map (·.target) ∧
      target.unitName session.settings.unitSuffix = session.settings.markerUnitName := by
  rw [h.failures] at hmem
  obtain ⟨failure, hentry⟩ := Faithful.mem_targets_failuresOf.1 hmem
  obtain ⟨type, htype, rfl, houtcome⟩ := exists_of_mem_examineAll hentry
  constructor
  · have htarget := List.mem_map_of_mem (f := (·.target)) htype
    rw [map_target_candidates] at htarget
    exact List.mem_eraseDups.1 htarget
  · rcases houtcome with hcancelled | hsettled
    · cases hcancelled
    · rw [settle] at hsettled
      cases hdecorator : type.decorator? snapshot session.settings with
      | none =>
        rw [hdecorator] at hsettled
        cases hsettled
      | some decorator =>
        rw [hdecorator] at hsettled
        simp only at hsettled
        split at hsettled
        · cases hsettled
        · rw [generateEntry, Decorator.sourceUnit_eq] at hsettled
          rw [← TypeDecl.target_of_decorator? hdecorator]
          by_contra hname
          rw [if_neg hname] at hsettled
          cases hsettled

/-- The sessions that runs over snapshots of some kind lead to from a new one. -/
inductive ReachableOver (settings : Settings) (accepts : Snapshot → Prop) : Session → Prop where
  /-- A new session is reachable. -/
  | new {session : Session} (h : create settings = .ok session) :
    ReachableOver settings accepts session
  /-- A run over an accepted snapshot leads on. -/
  | run {session next : Session} {report : RunReport} (h : ReachableOver settings accepts session)
      (snapshot : Snapshot) (haccepts : accepts snapshot) (token : Cancellation)
      (hrun : session.run snapshot token = .ok (report, next)) : ReachableOver settings accepts next

theorem ReachableOver.reachable {accepts : Snapshot → Prop}
    (h : ReachableOver settings accepts session) : Reachable settings session := by
  induction h with
  | new h => exact .new h
  | run _ snapshot _ token hrun ih => exact ih.run snapshot token hrun

/-- What holds of the targets of all marked types holds of all cached targets. -/
theorem ReachableOver.forall_targets {accepts : Snapshot → Prop} {property : Target → Prop}
    (h : ReachableOver settings accepts session)
    (hmarked : ∀ snapshot, accepts snapshot →
      ∀ type ∈ snapshot.marked settings.markerAttribute, property type.target) :
    ∀ target ∈ session.cache.targets, property target := by
  induction h with
  | new h =>
    obtain ⟨-, rfl⟩ := create_eq_ok_iff.1 h
    intro target hmem
    cases hmem
  | run hreach snapshot haccepts token hrun ih =>
    intro target hmem
    have hsettings := hreach.reachable.settings_eq.2
    rcases (ran_of_run hrun).mem_targets hmem with hcached | hnew
    · exact ih target hcached
    · rw [hsettings] at hnew
      obtain ⟨type, htype, rfl⟩ := List.mem_map.1 hnew
      exact hmarked snapshot haccepts type htype

theorem Reachable.reachableOver (h : Reachable settings session) :
    ReachableOver settings (fun _ => True) session := by
  induction h with
  | new h => exact .new h
  | run _ snapshot token hrun ih => exact ih.run snapshot trivial token hrun

theorem Reachable.isDeclared_of_mem (h : Reachable settings session) :
    ∀ target ∈ session.cache.targets, target.IsDeclared :=
  h.reachableOver.forall_targets fun _ _ type _ => ⟨type, rfl⟩

/-! ## Shared units -/

/-- Cached targets share a unit exactly if their dotted names are the same. -/
theorem Reachable.name_eq_iff (h : Reachable settings session) {a b : Target × CachedOutput}
    (ha : a ∈ session.cache.entries) (hb : b ∈ session.cache.entries) :
    a.2.unit.name = b.2.unit.name ↔ a.1.display = b.1.display := by
  have hcoherent : ∀ entry ∈ session.cache.entries, entry.2.Coherent settings entry.1 :=
    fun entry hentry => h.coherentCache _ _ (TargetMap.get?_eq_some_iff.2 hentry)
  have hdeclared : ∀ entry ∈ session.cache.entries, entry.1.IsDeclared := fun entry hentry =>
    h.isDeclared_of_mem _ (List.mem_map_of_mem hentry)
  rw [(hcoherent a ha).name_eq, (hcoherent b hb).name_eq]
  exact (hdeclared a ha).unitName_eq_iff (hdeclared b hb) _

/-- The marked types of a snapshot have simple names. -/
def HasSimpleNames (settings : Settings) (snapshot : Snapshot) : Prop :=
  ∀ type ∈ snapshot.marked settings.markerAttribute, type.target.IsSimple

/-- As long as the marked types of all snapshots have simple names, no two cached targets share a
unit, and no run reports a unit both as one that exists and as removed. -/
theorem name_injective_of_hasSimpleNames
    (h : ReachableOver settings (HasSimpleNames settings) session) :
    (∀ a ∈ session.cache.entries, ∀ b ∈ session.cache.entries,
      a.2.unit.name = b.2.unit.name → a.1 = b.1) ∧
    ∀ snapshot token, HasSimpleNames settings snapshot →
      ∃ report next, session.run snapshot token = .ok (report, next) ∧
        ∀ kept ∈ report.outputs, ∀ removed ∈ report.outputs, kept.status ≠ .removed →
          removed.status = .removed → kept.name ≠ removed.name := by
  have hreach := h.reachable
  have hcoherent := hreach.coherentCache
  obtain ⟨-, rfl⟩ := hreach.settings_eq
  have hdeclared := hreach.isDeclared_of_mem
  have hsimple : ∀ target ∈ session.cache.targets, target.IsSimple :=
    h.forall_targets fun snapshot hsnapshot => hsnapshot
  refine ⟨fun a ha b hb hname => ?_, fun snapshot token hsnapshot => ?_⟩
  · have hmemA : a.1 ∈ session.cache.targets := List.mem_map_of_mem ha
    have hmemB : b.1 ∈ session.cache.targets := List.mem_map_of_mem hb
    exact Target.eq_of_display_eq (hdeclared _ hmemA) (hdeclared _ hmemB) (hsimple _ hmemA)
      (hsimple _ hmemB) ((hreach.name_eq_iff ha hb).1 hname)
  · obtain ⟨report, next, hrun, hran⟩ := session.run_eq snapshot token
    refine ⟨report, next, hrun, ?_⟩
    have hbalanced := balanced_of_ran hcoherent hran
    have hnames := (coherent_of_ran hcoherent hran).2
    have hreported : ∀ output ∈ report.outputs,
        output.target.IsDeclared ∧ output.target.IsSimple := by
      intro output houtput
      rcases hbalanced.mem_of_mem_outputs hran hcoherent houtput with hcached | hmarked
      · exact ⟨hdeclared _ hcached, hsimple _ hcached⟩
      · obtain ⟨type, htype, heq⟩ := List.mem_map.1 hmarked
        rw [← heq]
        exact ⟨⟨type, rfl⟩, hsnapshot type htype⟩
    intro kept hkept removed hremoved hstatus hstatus' hname
    obtain ⟨hdeclaredK, hsimpleK⟩ := hreported kept hkept
    obtain ⟨hdeclaredR, hsimpleR⟩ := hreported removed hremoved
    rw [(hnames kept hkept).name_eq, (hnames removed hremoved).name_eq,
      hdeclaredK.unitName_eq_iff hdeclaredR] at hname
    have htarget := Target.eq_of_display_eq hdeclaredK hdeclaredR hsimpleK hsimpleR hname
    have honce := (List.nodup_append.1 hbalanced.once).1
    obtain rfl := List.inj_on_of_nodup_map honce hkept hremoved htarget
    exact hstatus hstatus'

/-- The one type of `storeSnapshot` has a simple name, so its unit is not shared, not even in the
run that removes it. -/
theorem name_injective_of_hasSimpleNames_store : ∃ session,
    ReachableOver .default (HasSimpleNames .default) session ∧
    session.cache.targets = [storeTarget] ∧
    ∃ report next, session.run { types := [], interfaces := [] } .fresh = .ok (report, next) ∧
      ∀ kept ∈ report.outputs, ∀ removed ∈ report.outputs, kept.status ≠ .removed →
        removed.status = .removed → kept.name ≠ removed.name := by
  obtain ⟨first, session, hrun, htargets⟩ := run_store
  have hstore : HasSimpleNames .default storeSnapshot := by
    intro type htype
    have hall : (storeSnapshot.marked Settings.default.markerAttribute).all
        (fun type => decide type.target.IsSimple) = true := by decide +kernel
    simpa using List.all_eq_true.1 hall type htype
  have hreach : ReachableOver .default (HasSimpleNames .default) session :=
    (ReachableOver.new create_default).run _ hstore _ hrun
  obtain ⟨-, hruns⟩ := name_injective_of_hasSimpleNames hreach
  exact ⟨session, hreach, htargets, hruns _ .fresh fun type htype => by cases htype⟩

/-! ## A shared unit -/

/-- A snapshot with a marked type of a given namespace and name. -/
def dottedSnapshot (types : List (String × String)) : Snapshot where
  types := types.map fun (scope, name) => { TypeDecl.ofClass (some scope) name with
    attributes := ["Decorgen.GenericDecoratorAttribute"]
    interfaces := [.plain none "IStore"] }
  interfaces := [.inScope none "IStore" [] []]

/-- Two targets can share a unit, though their snapshots are valid: both are cached under its name
at once, or it is reported as new and, later in the same run, as removed. -/
theorem exists_shared_unit :
    (dottedSnapshot [("A", "B.C"), ("A.B", "C")]).validate = .ok () ∧
    ((start .default).run (dottedSnapshot [("A", "B.C"), ("A.B", "C")]) .fresh).toOption.map
      (fun ran => ran.2.cache.entries.map fun entry => (entry.1, entry.2.unit.name)) =
      some [(⟨some "global::A", "B.C"⟩, "A.B.C.g.cs"),
        (⟨some "global::A.B", "C"⟩, "A.B.C.g.cs")] ∧
    (((start .default).run (dottedSnapshot [("A", "B.C")]) .fresh).toOption.bind fun first =>
      (first.2.run (dottedSnapshot [("A.B", "C")]) .fresh).toOption.map fun second =>
        second.1.outputs.map fun output => (output.status, output.name)) =
      some [(.new, "A.B.C.g.cs"), (.removed, "A.B.C.g.cs")] := by
  refine ⟨?_, ?_, ?_⟩ <;> decide +kernel

end Session

end Forwarder
