import Mathlib.Data.List.Perm.Basic
import Forwarder.Proofs.Session.Isolation
import Forwarder.Proofs.Snapshot.Agreement

/-!
# The order of declarations

The order in which a snapshot declares interfaces makes no difference at all, since in a valid
snapshot no two declarations are of the same definition. The order in which it declares types makes
none to what a run leaves behind, as long as no two marked types have the same target: the run only
reports its outputs and failures in another order. What a run comes to can be said outcome by
outcome, so it is enough that the outcomes are the same up to their order.
-/

namespace Forwarder

/-- Two reports are the same up to the order of their outputs and failures. -/
structure RunReport.SameUpToOrder (report other : RunReport) : Prop where
  /-- They have the same unit of the marker attribute. -/
  marker : other.marker = report.marker
  /-- The same outputs exist after the runs. -/
  standing : other.standing.Perm report.standing
  /-- The same outputs were removed, in the same order. -/
  removed : other.withStatus .removed = report.withStatus .removed
  /-- The same candidates failed. -/
  failures : other.failures.Perm report.failures
  /-- The counts are the same. -/
  tally : other.tally = report.tally

theorem Tally.merge_comm (a b : Tally) : a.merge b = b.merge a := by
  simp [merge, UInt32.add_comm]

theorem Tally.total_perm {tallies others : List Tally} (h : others.Perm tallies) :
    total others = total tallies := by
  refine h.foldr_eq' (fun a _ b _ rest => ?_) zero
  rw [← merge_assoc, ← merge_assoc, merge_comm a b]

namespace Session

variable {session next last : Session} {snapshot shuffled : Snapshot} {token : Cancellation}
  {report later : RunReport} {outcomes others : List (Target × Outcome)}

/-! ## Outcomes in another order -/

theorem lookup_eq_of_perm (hperm : others.Perm outcomes) (h : (outcomes.map (·.1)).Nodup)
    (target : Target) : others.lookup target = outcomes.lookup target := by
  refine Option.ext fun outcome => ?_
  rw [lookup_eq_some_iff_mem h, lookup_eq_some_iff_mem ((hperm.map _).nodup_iff.2 h),
    hperm.mem_iff]

theorem staleOf_eq_of_perm (hperm : others.Perm outcomes) (cache : Cache) :
    staleOf cache others = staleOf cache outcomes := by
  have hlive : ∀ target, target ∈ liveOf others ↔ target ∈ liveOf outcomes := fun _ =>
    ((hperm.filter _).map _).mem_iff
  simp only [staleOf, hlive]

theorem countsOf_eq_of_perm (hperm : others.Perm outcomes) (cache : Cache) :
    countsOf cache others = countsOf cache outcomes :=
  Tally.total_perm (hperm.map _)

/-- Runs whose first phases find the same outcomes, in whatever order, leave the same session and
report the same up to the order. -/
theorem Ran.sameUpToOrder (h : session.Ran outcomes report next)
    (hlater : session.Ran others later last) (hperm : others.Perm outcomes)
    (hnodup : (outcomes.map (·.1)).Nodup) : last = next ∧ report.SameUpToOrder later := by
  have hstale := staleOf_eq_of_perm hperm session.cache
  have htally : later.tally = report.tally := by
    rw [hlater.tally, h.tally, countsOf_eq_of_perm hperm, hstale]
  have hcache : last.cache = next.cache := by
    refine TargetMap.ext_get? fun target => ?_
    rw [hlater.cache, h.cache, lookup_eq_of_perm hperm hnodup]
  constructor
  · obtain ⟨settings, cache, emitted, totals⟩ := next
    obtain ⟨settings', cache', emitted', totals'⟩ := last
    obtain rfl : settings' = settings := hlater.settings.trans h.settings.symm
    obtain rfl : cache' = cache := hcache
    obtain rfl : emitted' = emitted := hlater.emitted.trans h.emitted.symm
    obtain rfl : totals' = totals := by
      rw [show totals' = _ from hlater.totals, show totals = _ from h.totals, htally]
    rfl
  · constructor
    case marker => rw [hlater.marker, h.marker]
    case standing =>
      rw [hlater.standing, h.standing]
      exact hperm.filterMap _
    case removed => rw [hlater.withStatus_removed, h.withStatus_removed, hstale]
    case failures =>
      rw [hlater.failures, h.failures]
      exact hperm.filterMap _
    case tally => exact htally

/-! ## Types in another order -/

/-- Types with different targets are all kept. -/
theorem distinctTargets_eq_self {types : List TypeDecl} (h : (types.map (·.target)).Nodup)
    {seen : List Target} (hseen : ∀ type ∈ types, type.target ∉ seen) :
    distinctTargets seen types = types := by
  induction types generalizing seen with
  | nil => rfl
  | cons type rest ih =>
    obtain ⟨hfirst, hrest⟩ := List.nodup_cons.1 h
    rw [distinctTargets, if_neg (hseen type List.mem_cons_self), ih hrest]
    intro later hmem
    rw [List.mem_cons, not_or]
    exact ⟨fun heq => hfirst (List.mem_map.2 ⟨later, hmem, heq⟩),
      hseen later (List.mem_cons_of_mem _ hmem)⟩

theorem candidates_eq_marked {settings : Settings}
    (h : ((snapshot.marked settings.markerAttribute).map (·.target)).Nodup) :
    candidates settings snapshot = snapshot.marked settings.markerAttribute :=
  distinctTargets_eq_self h fun _ _ => List.not_mem_nil

/-- A run that is not cut short settles every candidate. -/
theorem Completes.examined_eq (h : session.Completes snapshot token) :
    session.examined snapshot token = session.examined snapshot .fresh := by
  refine List.ext_getElem? fun position => ?_
  have hcomplete : ∀ entry ∈ (session.examined snapshot token)[position]?,
      entry.2 ≠ .cancelled := fun entry hentry => h entry (List.mem_of_getElem? hentry)
  rw [examined, examineAll_eq] at hcomplete ⊢
  rw [examined_fresh]
  rw [List.getElem?_mapIdx] at hcomplete ⊢
  rw [List.getElem?_map]
  cases htype : (candidates session.settings snapshot)[position]? with
  | none => rfl
  | some type =>
    rw [htype, Option.map_some] at hcomplete
    have houtcome := hcomplete _ rfl
    simp only [Option.map_some, outcomeAt] at houtcome ⊢
    split at houtcome
    · exact absurd rfl houtcome
    · rename_i hpass
      rw [if_neg hpass]

/-- The candidates of a snapshot in another order are examined with the same outcomes, as long as
no two of them have the same target. -/
theorem perm_examined_fresh (session : Session) (htypes : shuffled.types.Perm snapshot.types)
    (hsame : shuffled.interfaces = snapshot.interfaces)
    (hdistinct :
      ((snapshot.marked session.settings.markerAttribute).map (·.target)).Nodup) :
    (session.examined shuffled .fresh).Perm (session.examined snapshot .fresh) := by
  have hmarked : (shuffled.marked session.settings.markerAttribute).Perm
      (snapshot.marked session.settings.markerAttribute) := htypes.filter _
  have hresolve : ∀ reference, shuffled.resolve? reference = snapshot.resolve? reference := by
    intro reference
    simp only [Snapshot.resolve?, Snapshot.declarationOf?, hsame]
  have hsettle : ∀ type cached, settle session.settings shuffled type cached =
      settle session.settings snapshot type cached := by
    intro type cached
    have hdecorator : type.decorator? shuffled session.settings =
        type.decorator? snapshot session.settings := by
      rw [TypeDecl.decorator?, TypeDecl.decorator?,
        Snapshot.decorated?_congr fun entry _ => hresolve entry.1]
    rw [settle, settle, hdecorator]
  rw [examined_fresh, examined_fresh, candidates_eq_marked hdistinct,
    candidates_eq_marked ((hmarked.map _).nodup_iff.2 hdistinct)]
  simp only [hsettle]
  exact hmarked.map _

/-- The order of declarations makes no difference where it should not. Declaring the interfaces of a
valid snapshot in another order changes nothing: not what a reference resolves to, nor what is
derived of a type, nor any run, nor the analysis. Declaring its types in another order changes, as
long as no two marked types have the same target, only the order in which a run that is not cut
short reports outputs and failures. -/
theorem sameUpToOrder_of_perm (hvalid : snapshot.validate = .ok ()) :
    (∀ shuffled : Snapshot, shuffled.types = snapshot.types →
      shuffled.interfaces.Perm snapshot.interfaces →
        (∀ reference, shuffled.resolve? reference = snapshot.resolve? reference) ∧
        (∀ settings type, Decorator.derive shuffled settings type =
          Decorator.derive snapshot settings type) ∧
        (∀ (session : Session) token,
          session.run shuffled token = session.run snapshot token) ∧
        ∀ settings, Analysis.ofSnapshot settings shuffled =
          Analysis.ofSnapshot settings snapshot) ∧
    ∀ shuffled : Snapshot, shuffled.types.Perm snapshot.types →
      shuffled.interfaces = snapshot.interfaces →
      ∀ session : Session,
        ((snapshot.marked session.settings.markerAttribute).map (·.target)).Nodup →
        ∀ token other, session.Completes snapshot token → session.Completes shuffled other →
          ∃ report later next, session.run snapshot token = .ok (report, next) ∧
            session.run shuffled other = .ok (later, next) ∧ report.SameUpToOrder later := by
  constructor
  · intro shuffled htypes hperm
    have hagrees := (Snapshot.validate_eq_ok_iff.1 hvalid).agrees_of_perm htypes hperm
    exact ⟨hagrees.resolve?_eq, fun settings type => hagrees.derive_eq (.refl type) settings,
      hagrees.run_eq, hagrees.analysis_eq⟩
  · intro shuffled htypes hinterfaces session hdistinct token other hcompletes hcompletes'
    obtain ⟨report, next, hrun, hran⟩ := session.run_eq snapshot token
    obtain ⟨later, last, hrun', hran'⟩ := session.run_eq shuffled other
    have hperm : (session.examined shuffled other).Perm (session.examined snapshot token) := by
      rw [hcompletes.examined_eq, hcompletes'.examined_eq]
      exact session.perm_examined_fresh htypes hinterfaces hdistinct
    obtain ⟨rfl, hsame⟩ := hran.sameUpToOrder hran' hperm (session.nodup_examined snapshot token)
    exact ⟨report, later, last, hrun, hrun', hsame⟩

/-- A valid snapshot with two interfaces and two marked types. -/
def shopSnapshot : Snapshot where
  types := { TypeDecl.ofClass (some "Shop") "CartDecorator" with
      attributes := ["Decorgen.GenericDecoratorAttribute"]
      interfaces := [.plain (some "Shop") "ICart", .plain (some "Shop") "IStore"] } ::
    storeSnapshot.types
  interfaces := .inScope (some "Shop") "ICart" [] [.method (.returning "Clear" .void)] ::
    storeSnapshot.interfaces

/-- Turning the lists of `shopSnapshot` around changes at most the order of reports. -/
theorem sameUpToOrder_of_perm_shop :
    (∀ reference, (⟨shopSnapshot.types, shopSnapshot.interfaces.reverse⟩ : Snapshot).resolve?
      reference = shopSnapshot.resolve? reference) ∧
    ∃ report later next, (start .default).run shopSnapshot .fresh = .ok (report, next) ∧
      (start .default).run ⟨shopSnapshot.types.reverse, shopSnapshot.interfaces⟩ .fresh =
        .ok (later, next) ∧ report.SameUpToOrder later := by
  have hvalid : shopSnapshot.validate = .ok () := by decide +kernel
  have hdistinct : ((shopSnapshot.marked (start .default).settings.markerAttribute).map
      (·.target)).Nodup := by decide +kernel
  obtain ⟨hinterfaces, htypes⟩ := sameUpToOrder_of_perm hvalid
  refine ⟨?_, ?_⟩
  · exact (hinterfaces ⟨shopSnapshot.types, shopSnapshot.interfaces.reverse⟩ rfl
      (List.reverse_perm _)).1
  · exact htypes ⟨shopSnapshot.types.reverse, shopSnapshot.interfaces⟩ (List.reverse_perm _) rfl
      (start .default) hdistinct .fresh .fresh (completes_fresh _ _) (completes_fresh _ _)

end Session

end Forwarder
