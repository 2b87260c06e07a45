import Mathlib.Data.List.Nodup
import Forwarder.Proofs.Session.Accounting
import Forwarder.Proofs.Session.Budget

/-!
# Isolation of cached outputs

The decorator of a type is read off a small part of a snapshot: the interfaces that its first marked
declaration lists, and what the snapshot declares for each of them. Two snapshots that agree there
give the type the same decorator, so after a run over the first one the output is served from the
cache in a run over the second, whatever else has been edited in between.
-/

namespace Forwarder

/-- The first marked declaration of a target. -/
def Snapshot.firstMarked? (snapshot : Snapshot) (settings : Settings) (target : Target) :
    Option TypeDecl :=
  (snapshot.marked settings.markerAttribute).find? (·.target = target)

/-- Two declarations of a type, each in its snapshot, do not differ in what the decorator of the
type is made from. -/
structure SameFootprint (before after : Snapshot) (type changed : TypeDecl) : Prop where
  /-- Both have been resolved. -/
  resolved : type.kind ≠ .unresolved ∧ changed.kind ≠ .unresolved
  /-- They list the same interfaces. -/
  interfaces : changed.interfaces = type.interfaces
  /-- The snapshots have the same declarations of these. -/
  declarations : ∀ reference ∈ type.interfaces, ∀ named ∈ reference.asConstructed?,
    after.declarationOf? named = before.declarationOf? named

variable {settings : Settings} {before after : Snapshot}

/-! ## What a decorator is made from -/

/-- Resolving a reference reads nothing of a snapshot but the declaration that it leads to. -/
theorem Snapshot.resolve?_congr {reference : TypeExpr}
    (h : ∀ named ∈ reference.asConstructed?,
      after.declarationOf? named = before.declarationOf? named) :
    after.resolve? reference = before.resolve? reference := by
  rw [resolve?, resolve?]
  cases hnamed : reference.asConstructed? with
  | none => rfl
  | some named =>
    have hdeclaration := h named hnamed
    simp only [Option.bind_eq_bind, Option.bind_some, hdeclaration]

theorem Snapshot.decorated?_congr {interfaces : List (TypeExpr × String)}
    (h : ∀ entry ∈ interfaces, after.resolve? entry.1 = before.resolve? entry.1) :
    after.decorated? interfaces = before.decorated? interfaces := by
  induction interfaces with
  | nil => rfl
  | cons head rest ih =>
    obtain ⟨reference, accessor⟩ := head
    have hhead : after.resolve? reference = before.resolve? reference :=
      h (reference, accessor) List.mem_cons_self
    have hrest := ih fun entry hentry => h entry (List.mem_cons_of_mem _ hentry)
    cases hresolve : before.resolve? reference with
    | none =>
      rw [hresolve] at hhead
      rw [after.decorated?_cons_of_none rest accessor hhead,
        before.decorated?_cons_of_none rest accessor hresolve]
    | some bound =>
      rw [hresolve] at hhead
      rw [after.decorated?_cons_of_some rest accessor hhead,
        before.decorated?_cons_of_some rest accessor hresolve, hrest]

/-- A type keeps its decorator as long as nothing in its footprint changes. -/
theorem SameFootprint.decorator?_eq {type changed : TypeDecl}
    (h : SameFootprint before after type changed) (htarget : changed.target = type.target) :
    changed.decorator? after settings = type.decorator? before settings := by
  have haccessors : changed.accessors settings = type.accessors settings := by
    rw [TypeDecl.accessors, TypeDecl.accessors, h.interfaces]
  have hdecorated : after.decorated? (type.interfaces.zip (type.accessors settings).names) =
      before.decorated? (type.interfaces.zip (type.accessors settings).names) := by
    refine Snapshot.decorated?_congr fun entry hentry => ?_
    exact Snapshot.resolve?_congr (h.declarations entry.1 (List.of_mem_zip hentry).1)
  rw [TypeDecl.decorator?, TypeDecl.decorator?, h.interfaces, haccessors, hdecorated, htarget]
  simp only [h.resolved.1, h.resolved.2]

namespace Session

variable {session next : Session} {snapshot : Snapshot} {token : Cancellation}

/-! ## Candidates -/

theorem find?_distinctTargets {seen : List Target} {target : Target} (h : target ∉ seen)
    (types : List TypeDecl) :
    (distinctTargets seen types).find? (·.target = target) = types.find? (·.target = target) := by
  induction types generalizing seen with
  | nil => rfl
  | cons type rest ih =>
    rw [distinctTargets]
    by_cases heq : type.target = target
    · have hseen : type.target ∉ seen := fun hmem => h (heq ▸ hmem)
      rw [if_neg hseen, List.find?_cons_of_pos (by simpa using heq),
        List.find?_cons_of_pos (by simpa using heq)]
    · have hcons : target ∉ type.target :: seen := by
        rw [List.mem_cons]
        rintro (rfl | hmem)
        · exact heq rfl
        · exact h hmem
      rw [List.find?_cons_of_neg (by simpa using heq)]
      split
      · exact ih h
      · rw [List.find?_cons_of_neg (by simpa using heq), ih hcons]

/-- The candidate for a target is its first marked declaration. -/
theorem find?_candidates (settings : Settings) (snapshot : Snapshot) (target : Target) :
    (candidates settings snapshot).find? (·.target = target) =
      snapshot.firstMarked? settings target :=
  find?_distinctTargets List.not_mem_nil _

/-- No two candidates have the same target. -/
theorem candidate_eq {type other : TypeDecl} (htype : type ∈ candidates settings snapshot)
    (hother : other ∈ candidates settings snapshot) (h : type.target = other.target) :
    type = other :=
  List.inj_on_of_nodup_map (nodup_candidates settings snapshot) htype hother h

/-! ## Runs that abandon nothing -/

/-- A run is not cut short: it abandons none of its candidates. -/
def Completes (session : Session) (snapshot : Snapshot) (token : Cancellation) : Prop :=
  ∀ entry ∈ session.examined snapshot token, entry.2 ≠ .cancelled

theorem completes_fresh (session : Session) (snapshot : Snapshot) :
    session.Completes snapshot .fresh := by
  intro entry hentry
  rw [examined_fresh] at hentry
  obtain ⟨type, -, rfl⟩ := List.mem_map.1 hentry
  exact settle_ne_cancelled _ snapshot type _

/-- In a run that is not cut short every candidate is settled. -/
theorem Completes.mem_examined (h : session.Completes snapshot token) {type : TypeDecl}
    (htype : type ∈ candidates session.settings snapshot) :
    (type.target, settle session.settings snapshot type (session.cache.get? type.target)) ∈
      session.examined snapshot token := by
  have htargets : (session.examined snapshot token).map (·.1) =
      (candidates session.settings snapshot).map (·.target) := map_fst_examineAll _ _
  have hmem : type.target ∈ (session.examined snapshot token).map (·.1) := by
    rw [htargets]
    exact List.mem_map_of_mem htype
  obtain ⟨⟨target, outcome⟩, hentry, htarget⟩ := List.mem_map.1 hmem
  obtain rfl : target = type.target := htarget
  obtain ⟨other, hother, hsame, houtcome⟩ := exists_of_mem_examineAll hentry
  obtain rfl : other = type := candidate_eq hother htype hsame
  rcases houtcome with hcancelled | hsettled
  · exact absurd hcancelled (h _ hentry)
  · exact hsettled ▸ hentry

/-! ## Produced outputs -/

/-- What a settled candidate reports is the report of the entry that it leaves, and that has the
candidate's decorator. -/
theorem exists_entry_of_settle {type : TypeDecl} {cached : Option CachedOutput}
    {output : ReportedUnit}
    (h : (settle settings snapshot type cached).output? cached = some output) :
    ∃ entry, (settle settings snapshot type cached).left cached = some entry ∧
      type.decorator? snapshot settings = some entry.decorator ∧
      output = entry.reported output.status := by
  cases hdecorator : type.decorator? snapshot settings with
  | none => simp [settle, hdecorator, Outcome.output?] at h
  | some decorator =>
    by_cases hsame : cached.map (·.decorator) = some decorator
    · obtain ⟨entry, rfl, hentry⟩ := Option.map_eq_some_iff.1 hsame
      simp only [settle, hdecorator, hsame, if_true] at h ⊢
      obtain rfl := Option.some.inj h
      exact ⟨entry, rfl, by rw [hentry], rfl⟩
    · simp only [settle, hdecorator, hsame, if_false] at h ⊢
      rw [generateEntry] at h ⊢
      cases hunit : decorator.sourceUnit settings with
      | error failure =>
        rw [hunit] at h
        cases h
      | ok unit =>
        rw [hunit] at h
        obtain rfl := Option.some.inj h
        exact ⟨_, rfl, rfl, rfl⟩

/-- An output that a run produces is that of the entry which the run leaves for its target, made
from the decorator of the first marked declaration. -/
theorem Ran.exists_produced {report : RunReport}
    (hcoherent : CoherentCache session.settings session.cache)
    (h : session.Ran (session.examined snapshot token) report next) {output : ReportedUnit}
    (houtput : output ∈ report.outputs) (hstatus : output.status ≠ .removed) :
    ∃ type entry, snapshot.firstMarked? session.settings output.target = some type ∧
      next.cache.get? output.target = some entry ∧
      type.decorator? snapshot session.settings = some entry.decorator ∧
      output = entry.reported output.status := by
  have hfaithful := faithful_examined hcoherent snapshot token
  have hstanding : output ∈ report.standing := List.mem_filter.2 ⟨houtput, by simpa using hstatus⟩
  rw [h.standing] at hstanding
  obtain ⟨⟨target, outcome⟩, hentry, hreport⟩ := List.mem_filterMap.1 hstanding
  obtain rfl : output.target = target := hfaithful.target_eq _ hentry output hreport
  obtain ⟨type, htype, htarget, hcancelled | hsettled⟩ := exists_of_mem_examineAll hentry
  · rw [hcancelled] at hreport
    cases hreport
  · obtain ⟨entry, hleft, hdecorator, hentry'⟩ := exists_entry_of_settle (hsettled ▸ hreport)
    refine ⟨type, entry, ?_, ?_, hdecorator, hentry'⟩
    · rw [← find?_candidates]
      cases hfind : (candidates session.settings snapshot).find? (·.target = output.target) with
      | none =>
        have hnone := List.find?_eq_none.1 hfind type htype
        simp [htarget] at hnone
      | some other =>
        have hother : other.target = output.target := by simpa using List.find?_some hfind
        rw [candidate_eq htype (List.mem_of_find?_eq_some hfind) (htarget.trans hother.symm)]
    · rw [h.cache, (lookup_eq_some_iff_mem hfaithful.nodup).2 hentry, Option.bind_some, hsettled]
      exact hleft

/-- Outputs are isolated from each other. What a run produces for a target, a second run that is
not cut short serves from the cache, with the same name, text and fingerprint, if the first marked
declaration of the target has the same footprint in both snapshots. -/
theorem cached_of_sameFootprint (h : Reachable settings session) (before after : Snapshot)
    (token other : Cancellation) :
    ∃ report next later last, session.run before token = .ok (report, next) ∧
      next.run after other = .ok (later, last) ∧
      (next.Completes after other → ∀ output ∈ report.outputs, output.status ≠ .removed →
        ∀ type changed, before.firstMarked? settings output.target = some type →
          after.firstMarked? settings output.target = some changed →
          SameFootprint before after type changed →
            { output with status := .cached } ∈ later.outputs ∧
            ∀ second ∈ later.outputs, second.target = output.target →
              second = { output with status := .cached }) := by
  obtain ⟨report, next, hrun, hran⟩ := session.run_eq before token
  obtain ⟨later, last, hrunLater, hranLater⟩ := next.run_eq after other
  refine ⟨report, next, later, last, hrun, hrunLater, ?_⟩
  intro hcompletes output houtput hstatus type changed htype hchanged hsame
  have hreach := h.run before token hrun
  obtain ⟨-, rfl⟩ := h.settings_eq
  obtain ⟨first, entry, hfirst, hentry, hdecorator, hreported⟩ :=
    hran.exists_produced h.coherentCache houtput hstatus
  obtain rfl : type = first := Option.some.inj (htype.symm.trans hfirst)
  have hsettings : next.settings = session.settings := hran.settings
  have htarget : changed.target = output.target := by simpa using List.find?_some hchanged
  have htarget' : type.target = output.target := by simpa using List.find?_some htype
  -- the second run comes to the decorator that the entry was made from
  have hagain : changed.decorator? after session.settings = some entry.decorator := by
    rw [hsame.decorator?_eq (htarget.trans htarget'.symm), hdecorator]
  have hunchanged : settle next.settings after changed (next.cache.get? changed.target) =
      .unchanged := by
    rw [hsettings, htarget, hentry, settle, hagain]
    simp
  have hcandidate : changed ∈ candidates next.settings after := by
    rw [hsettings]
    rw [← find?_candidates] at hchanged
    exact List.mem_of_find?_eq_some hchanged
  have houtcome : (output.target, Outcome.unchanged) ∈ next.examined after other := by
    have hmem := hcompletes.mem_examined hcandidate
    rwa [hunchanged, htarget] at hmem
  have hcached : { output with status := .cached } ∈ later.outputs := by
    rw [hranLater.outputs]
    refine List.mem_append_left _ (List.mem_filterMap.2 ⟨_, houtcome, ?_⟩)
    have hserved : { output with status := .cached } = entry.reported .cached := by
      rw [hreported]
      rfl
    rw [hserved]
    show (next.cache.get? output.target).map (·.reported .cached) = some (entry.reported .cached)
    rw [hentry, Option.map_some]
  refine ⟨hcached, fun second hsecond heq => ?_⟩
  have hcoherent : CoherentCache next.settings next.cache := by
    rw [hsettings]
    exact hreach.coherentCache
  have honce := (balanced_of_ran hcoherent hranLater).once
  exact List.inj_on_of_nodup_map (List.nodup_append.1 honce).1 hsecond hcached heq

/-- The snapshot `storeSnapshot` after edits that leave its type's footprint alone: the type is now
a struct with a method and another place, and there are another type and another interface in
front. -/
def editedStoreSnapshot : Snapshot where
  types := [{ TypeDecl.ofClass none "Other" with
      attributes := ["Decorgen.GenericDecoratorAttribute"] },
    { TypeDecl.ofClass (some "Shop") "StoreDecorator" with
      kind := .value
      attributes := ["Other", "Decorgen.GenericDecoratorAttribute"]
      interfaces := [.plain (some "Shop") "IStore"]
      methods := [.returning "Count" .void]
      location := ⟨"Store.cs", 3, 1⟩ }]
  interfaces := .inScope none "IStore" [] [] :: storeSnapshot.interfaces

/-- The output for the type of `storeSnapshot` is still cached after the edits. -/
theorem cached_of_sameFootprint_store : ∃ report next later last output,
    (start .default).run storeSnapshot .fresh = .ok (report, next) ∧
    next.run editedStoreSnapshot .fresh = .ok (later, last) ∧
    output ∈ report.outputs ∧ output.target = storeTarget ∧ output.status = .new ∧
    { output with status := .cached } ∈ later.outputs := by
  obtain ⟨report, next, later, last, hrun, hrunLater, hcached⟩ := cached_of_sameFootprint
    (.new create_default) storeSnapshot editedStoreSnapshot .fresh .fresh
  have houtputs : ((start .default).run storeSnapshot .fresh).toOption.map
      (fun ran => ran.1.outputs.map fun output => (output.target, output.status)) =
        some [(storeTarget, .new)] := by decide +kernel
  rw [hrun] at houtputs
  have hlisted : (report.outputs.map fun output => (output.target, output.status)) =
      [(storeTarget, .new)] := Option.some.inj houtputs
  have hmem : (storeTarget, UnitStatus.new) ∈
      report.outputs.map fun output => (output.target, output.status) := by
    rw [hlisted]
    exact List.mem_singleton_self _
  obtain ⟨output, houtput, heq⟩ := List.mem_map.1 hmem
  obtain ⟨htarget, hstatus⟩ := Prod.mk.inj heq
  have htype : storeSnapshot.firstMarked? .default storeTarget = storeSnapshot.types[0]? := by
    decide +kernel
  have hchanged : editedStoreSnapshot.firstMarked? .default storeTarget =
      editedStoreSnapshot.types[1]? := by decide +kernel
  have hsame : SameFootprint storeSnapshot editedStoreSnapshot storeSnapshot.types[0]
      editedStoreSnapshot.types[1] :=
    ⟨by decide +kernel, by decide +kernel, by decide +kernel⟩
  rw [← htarget] at htype hchanged
  have hserved := hcached (completes_fresh next _) output houtput (by simp [hstatus]) _ _ htype
    hchanged hsame
  exact ⟨report, next, later, last, output, hrun, hrunLater, houtput, htarget, hstatus, hserved.1⟩

end Session

end Forwarder
