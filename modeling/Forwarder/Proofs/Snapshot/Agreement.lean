import Mathlib.Data.List.Forall2
import Mathlib.Data.List.Nodup
import Forwarder.Analysis
import Forwarder.Inspection
import Forwarder.Session
import Forwarder.Snapshot

/-!
# Snapshots that nothing tells apart

A snapshot is looked at in two ways only: which of its types are marked, and what a reference
resolves to. Two snapshots that agree in both, with the same types but for the way their attributes
are written, have the same decorators, runs, analyses and inspections. In a valid snapshot no
definition is declared twice, so what a reference resolves to does not depend on the order of the
declarations.
-/

namespace Forwarder

namespace Snapshot

variable {snapshot other : Snapshot}

/-! ## Valid snapshots -/

/-- What validation demands of a snapshot. -/
structure Consistent (snapshot : Snapshot) : Prop where
  /-- Types have names. -/
  types_named : ∀ type ∈ snapshot.types, type.name ≠ ""
  /-- Interfaces have names. -/
  interfaces_named : ∀ interface ∈ snapshot.interfaces, interface.head.name ≠ ""
  /-- No definition is declared twice. -/
  nodup : (snapshot.interfaces.map (·.openType)).Nodup

theorem validateTypes_eq_ok_iff {types : List TypeDecl} :
    validateTypes types = .ok () ↔ ∀ type ∈ types, type.name ≠ "" := by
  induction types with
  | nil => simp [validateTypes]
  | cons type rest ih =>
    rw [validateTypes]
    by_cases hname : type.name = "" <;> simp [hname, ih]

/-- Interfaces pass validation if they have names and their definitions are neither among the
earlier ones nor declared twice. -/
theorem validateInterfaces_eq_ok_iff {earlier interfaces : List InterfaceDecl} :
    validateInterfaces earlier interfaces = .ok () ↔
      (∀ interface ∈ interfaces, interface.head.name ≠ "") ∧
        (interfaces.map (·.openType)).Nodup ∧
        ∀ interface ∈ interfaces, interface.openType ∉ earlier.map (·.openType) := by
  induction interfaces generalizing earlier with
  | nil => simp [validateInterfaces]
  | cons interface rest ih =>
    rw [validateInterfaces]
    by_cases hname : interface.head.name = ""
    · simp [hname]
    · have hany : earlier.any (·.openType = interface.openType) = true ↔
          interface.openType ∈ earlier.map (·.openType) := by
        simp [List.any_eq_true]
      by_cases hearlier : interface.openType ∈ earlier.map (·.openType)
      · rw [if_neg hname, if_pos (hany.2 hearlier)]
        simp only [reduceCtorEq, List.forall_mem_cons, hearlier, not_true_eq_false, false_and,
          and_false]
      · rw [if_neg hname, if_neg fun h => hearlier (hany.1 h), ih]
        -- the first definition is an earlier one for those behind it
        have hlater : (∀ later ∈ rest,
              later.openType ∉ (interface :: earlier).map (·.openType)) ↔
            interface.openType ∉ rest.map (·.openType) ∧
              ∀ later ∈ rest, later.openType ∉ earlier.map (·.openType) := by
          simp only [List.map_cons, List.mem_cons, not_or, List.mem_map, not_exists, not_and]
          exact ⟨fun h => ⟨fun later hmem => (h later hmem).1, fun later hmem => (h later hmem).2⟩,
            fun h later hmem => ⟨h.1 later hmem, h.2 later hmem⟩⟩
        rw [hlater, List.forall_mem_cons, List.forall_mem_cons, List.map_cons, List.nodup_cons]
        simp only [ne_eq, hname, hearlier, not_false_eq_true, true_and]
        constructor
        · rintro ⟨hnamed, hnodup, hfirst, hnew⟩
          exact ⟨hnamed, ⟨hfirst, hnodup⟩, hnew⟩
        · rintro ⟨hnamed, ⟨hfirst, hnodup⟩, hnew⟩
          exact ⟨hnamed, hnodup, hfirst, hnew⟩

/-- Validation accepts exactly the consistent snapshots. -/
theorem validate_eq_ok_iff : snapshot.validate = .ok () ↔ snapshot.Consistent := by
  have hbind : snapshot.validate = .ok () ↔ validateTypes snapshot.types = .ok () ∧
      validateInterfaces [] snapshot.interfaces = .ok () := by
    rw [validate]
    cases validateTypes snapshot.types with
    | error failure => simp [bind, Except.bind]
    | ok value => simp [bind, Except.bind]
  rw [hbind, validateTypes_eq_ok_iff, validateInterfaces_eq_ok_iff]
  constructor
  · rintro ⟨htypes, hinterfaces, hnodup, -⟩
    exact ⟨htypes, hinterfaces, hnodup⟩
  · rintro ⟨htypes, hinterfaces, hnodup⟩
    exact ⟨htypes, hinterfaces, hnodup, by simp⟩

/-- In a consistent snapshot a reference leads to the one declaration of its definition. -/
theorem Consistent.declarationOf?_eq_some_iff (h : snapshot.Consistent)
    {reference : ConstructedType} {declaration : InterfaceDecl} :
    snapshot.declarationOf? reference = some declaration ↔
      declaration ∈ snapshot.interfaces ∧ declaration.openType = reference.openType := by
  constructor
  · intro hfind
    exact ⟨List.mem_of_find?_eq_some hfind, by simpa using List.find?_some hfind⟩
  · rintro ⟨hmem, hdefinition⟩
    cases hfind : snapshot.declarationOf? reference with
    | none =>
      have hnone := List.find?_eq_none.1 hfind declaration hmem
      simp [hdefinition] at hnone
    | some found =>
      have hfound : found.openType = reference.openType := by simpa using List.find?_some hfind
      rw [List.inj_on_of_nodup_map h.nodup (List.mem_of_find?_eq_some hfind) hmem
        (hfound.trans hdefinition.symm)]

/-- Declarations that are the same but for their order are consistent together. -/
theorem Consistent.of_perm (h : snapshot.Consistent) (htypes : other.types = snapshot.types)
    (hperm : other.interfaces.Perm snapshot.interfaces) : other.Consistent where
  types_named := by
    rw [htypes]
    exact h.types_named
  interfaces_named interface hmem := h.interfaces_named interface (hperm.mem_iff.1 hmem)
  nodup := (hperm.map _).nodup_iff.2 h.nodup

end Snapshot

/-! ## Agreement -/

/-- Two declarations of a type differ at most in how its attributes are written. -/
structure TypeDecl.Alike (type other : TypeDecl) : Prop where
  /-- All but the attributes is the same. -/
  eq_with : other = { type with attributes := other.attributes }
  /-- They are marked with the same attributes. -/
  isMarkedWith_eq : ∀ name, other.isMarkedWith name = type.isMarkedWith name

/-- Nothing that a snapshot is asked for tells two snapshots apart. -/
structure Snapshot.Agrees (snapshot other : Snapshot) : Prop where
  /-- They have the same types in the same order. -/
  types : List.Forall₂ TypeDecl.Alike snapshot.types other.types
  /-- References resolve to the same. -/
  resolve?_eq : ∀ reference, other.resolve? reference = snapshot.resolve? reference

theorem TypeDecl.Alike.refl (type : TypeDecl) : type.Alike type := ⟨rfl, fun _ => rfl⟩

variable {snapshot other : Snapshot} {type changed : TypeDecl}

theorem TypeDecl.Alike.target_eq (h : type.Alike changed) : changed.target = type.target := by
  rw [h.eq_with]
  rfl

/-- Declarations in another order that no definition stands in twice resolve the same. -/
theorem Snapshot.Consistent.agrees_of_perm (h : snapshot.Consistent)
    (htypes : other.types = snapshot.types)
    (hperm : other.interfaces.Perm snapshot.interfaces) : snapshot.Agrees other where
  types := by
    rw [htypes]
    exact List.forall₂_same.2 fun type _ => .refl type
  resolve?_eq reference := by
    have hdeclaration : ∀ named, other.declarationOf? named = snapshot.declarationOf? named := by
      intro named
      refine Option.ext fun declaration => ?_
      rw [(h.of_perm htypes hperm).declarationOf?_eq_some_iff, h.declarationOf?_eq_some_iff,
        hperm.mem_iff]
    simp only [resolve?, hdeclaration]

namespace Snapshot.Agrees

/-! ## What agreeing snapshots have in common -/

theorem marked (h : snapshot.Agrees other) (marker : String) :
    List.Forall₂ TypeDecl.Alike (snapshot.marked marker) (other.marked marker) := by
  have htypes := h.types
  rw [Snapshot.marked, Snapshot.marked]
  generalize snapshot.types = types, other.types = others at htypes
  induction htypes with
  | nil => exact .nil
  | cons hhead _ ih =>
    rw [List.filter_cons, List.filter_cons, hhead.isMarkedWith_eq]
    split
    · exact .cons hhead ih
    · exact ih

theorem forwardInterfaces_eq (h : snapshot.Agrees other) (interfaces : List (TypeExpr × String)) :
    forwardInterfaces other interfaces = forwardInterfaces snapshot interfaces := by
  induction interfaces with
  | nil => rfl
  | cons head rest ih =>
    obtain ⟨reference, accessor⟩ := head
    rw [forwardInterfaces, forwardInterfaces, h.resolve?_eq, ih]

/-- A type has the same decorator, whenever the token is cancelled. -/
theorem derive_eq (h : snapshot.Agrees other) (halike : type.Alike changed) (settings : Settings) :
    Decorator.derive other settings changed = Decorator.derive snapshot settings type := by
  rw [halike.eq_with, Decorator.derive, Decorator.derive]
  simp only [h.forwardInterfaces_eq]
  rfl

theorem distinctTargets {types others : List TypeDecl}
    (h : List.Forall₂ TypeDecl.Alike types others) (seen : List Target) :
    List.Forall₂ TypeDecl.Alike (Session.distinctTargets seen types)
      (Session.distinctTargets seen others) := by
  induction h generalizing seen with
  | nil => exact .nil
  | cons hhead _ ih =>
    rw [Session.distinctTargets, Session.distinctTargets, hhead.target_eq]
    split
    · exact ih seen
    · exact .cons hhead (ih _)

/-- Types are examined with the same outcomes. -/
theorem examineAll_eq (h : snapshot.Agrees other) (settings : Settings) (cache : Cache)
    {types others : List TypeDecl} (htypes : List.Forall₂ TypeDecl.Alike types others)
    (token : Cancellation) :
    Session.examineAll settings cache other others token =
      Session.examineAll settings cache snapshot types token := by
  induction htypes generalizing token with
  | nil => rfl
  | @cons type changed _ _ hhead _ ih =>
    have hexamine : Session.examine settings cache other changed token =
        Session.examine settings cache snapshot type token := by
      rw [Session.examine, Session.examine, h.derive_eq hhead, hhead.target_eq]
    rw [Session.examineAll, Session.examineAll, hexamine, hhead.target_eq]
    simp only [ih]

/-- A run reports and leaves the same. -/
theorem run_eq (h : snapshot.Agrees other) (session : Session) (token : Cancellation) :
    session.run other token = session.run snapshot token := by
  have houtcomes := h.examineAll_eq session.settings session.cache
    (distinctTargets (h.marked session.settings.markerAttribute) []) token
  rw [Session.run, Session.run, Session.candidates, Session.candidates, houtcomes]

/-- What is the same for types that are alike is the same for all of them. -/
theorem map_eq {α : Type} {f g : TypeDecl → α} {types others : List TypeDecl}
    (htypes : List.Forall₂ TypeDecl.Alike types others)
    (hsame : ∀ type changed, type.Alike changed → g changed = f type) :
    others.map g = types.map f := by
  induction htypes with
  | nil => rfl
  | cons hhead _ ih => rw [List.map_cons, List.map_cons, hsame _ _ hhead, ih]

/-- A type has the same diagnostics. -/
theorem diagnose_eq (h : snapshot.Agrees other) (halike : type.Alike changed)
    (settings : Settings) :
    Analysis.diagnose settings other changed = Analysis.diagnose settings snapshot type := by
  have hmembers : ∀ reference, Analysis.memberReports other type reference =
      Analysis.memberReports snapshot type reference := by
    intro reference
    rw [Analysis.memberReports, Analysis.memberReports, h.resolve?_eq]
  have hmembers' : Analysis.memberReports other type = Analysis.memberReports snapshot type :=
    funext hmembers
  rw [halike.eq_with]
  show Analysis.diagnose settings other type = _
  rw [Analysis.diagnose, Analysis.diagnose, hmembers']

/-- The analysis is the same. -/
theorem analysis_eq (h : snapshot.Agrees other) (settings : Settings) :
    Analysis.ofSnapshot settings other = Analysis.ofSnapshot settings snapshot := by
  have hmarked := h.marked settings.markerAttribute
  have hdiagnostics := map_eq hmarked fun _ _ halike => h.diagnose_eq halike settings
  rw [Analysis.ofSnapshot, Analysis.ofSnapshot, List.flatMap_def, List.flatMap_def, hdiagnostics,
    hmarked.length_eq]

/-- The inspection is the same. -/
theorem inspection_eq (h : snapshot.Agrees other) (settings : Settings) :
    inspection settings other = inspection settings snapshot := by
  have hresolve : other.resolve? = snapshot.resolve? := funext h.resolve?_eq
  refine map_eq (h.marked settings.markerAttribute) fun type changed halike => ?_
  have hinterfaces : changed.interfaces = type.interfaces := by
    rw [halike.eq_with]
  rw [InspectionEntry.ofType, InspectionEntry.ofType, Decorator.derive?, Decorator.derive?,
    h.derive_eq halike, halike.target_eq, TypeDecl.scopeSet, TypeDecl.scopeSet, hresolve,
    hinterfaces]

end Snapshot.Agrees

end Forwarder
