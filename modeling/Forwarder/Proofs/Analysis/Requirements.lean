import Mathlib.Data.List.Nodup
import Mathlib.Data.List.Perm.Subperm
import Forwarder.Proofs.Analysis.Diagnosis
import Forwarder.Proofs.Derivation

/-!
# What a decorator has to supply

The generated half of a decorator leaves one accessor for each interface and the four hooks to be
written by hand. No method can be two of these at once: accessors have different names, hooks are
told apart by name and arity, and a hook takes a parameter where an accessor takes none. So one more
method settles at most one of the diagnostics about missing bodies and changes no other, and a type
without such diagnostics has a method of its own for everything that is required.
-/

namespace Forwarder

open Analysis

variable {settings : Settings} {snapshot : Snapshot} {type : TypeDecl} {method : MethodDecl}

/-! ## Requirements -/

/-- A partial method that the hand-written half of a decorator has to supply. -/
inductive Requirement where
  /-- The accessor of a name for an interface. -/
  | accessor (interface : TypeExpr) (name : String)
  /-- A hook. -/
  | hook (which : Hook)
  deriving DecidableEq

namespace Requirement

/-- Whether a method is what is required. -/
def IsMetBy (requirement : Requirement) (method : MethodDecl) : Prop :=
  match requirement with
  | .accessor interface name => method.suppliesAccessor interface name = true
  | .hook which => method.suppliesHook which = true

instance (requirement : Requirement) (method : MethodDecl) :
    Decidable (requirement.IsMetBy method) := by
  unfold IsMetBy
  cases requirement <;> infer_instance

/-- What is required, as messages give it. -/
def signature : Requirement → String
  | .accessor interface name => interface.display .dotted ++ " " ++ name ++ "()"
  | .hook which => which.signature

/-- The diagnostic for a requirement that nothing in a type meets. -/
def report (type : TypeDecl) (requirement : Requirement) : Diagnostic :=
  missingReport type requirement.signature

end Requirement

namespace TypeDecl

/-- What a type has to supply: its accessors, in the order of its interfaces, and the hooks. -/
def requirements (type : TypeDecl) (settings : Settings) : List Requirement :=
  (type.interfaces.zip (type.accessors settings).names).map
      (fun entry => .accessor entry.1 entry.2) ++ Hook.all.map .hook

/-- Whether some method of a type is what is required. -/
def Supplies (type : TypeDecl) (requirement : Requirement) : Prop :=
  ∃ method ∈ type.methods, requirement.IsMetBy method

instance (type : TypeDecl) (requirement : Requirement) : Decidable (type.Supplies requirement) := by
  unfold Supplies
  infer_instance

/-- What a type has to supply and does not. -/
def missing (type : TypeDecl) (settings : Settings) : List Requirement :=
  (type.requirements settings).filter fun requirement => ¬ type.Supplies requirement

/-- A type with one more method, behind its own. -/
def withMethod (type : TypeDecl) (method : MethodDecl) : TypeDecl :=
  { type with methods := type.methods ++ [method] }

end TypeDecl

/-! ## One method, one requirement -/

theorem MethodDecl.suppliesAccessor_iff {interface : TypeExpr} {name : String} :
    method.suppliesAccessor interface name = true ↔
      method.implemented = true ∧ method.name = name ∧ method.typeParameters = [] ∧
      method.parameters = [] ∧ method.returnType = interface := by
  simp [suppliesAccessor, and_assoc]

theorem MethodDecl.suppliesHook_iff {which : Hook} :
    method.suppliesHook which = true ↔
      method.implemented = true ∧ method.name = which.methodName ∧
      method.typeParameters.length = which.arity ∧
      ∃ parameter, method.parameters = [parameter] ∧ (method.returnType, parameter.type) =
        which.types (.parameter (method.typeParameters.headD "")) := by
  rw [suppliesHook]
  split
  · rename_i parameter hparameters
    simp [hparameters, and_assoc]
  · rename_i hparameters
    have hnone : ∀ parameter, method.parameters ≠ [parameter] := hparameters
    simp [hnone]

/-- Hooks are told apart by their names and the numbers of their type parameters. -/
theorem Hook.eq_of_methodName_eq {a b : Hook} (hname : a.methodName = b.methodName)
    (harity : a.arity = b.arity) : a = b := by
  cases a <;> cases b <;> first | rfl | simp [methodName, nameFor, isAsync, arity] at hname harity

namespace Requirement

theorem implemented_of_isMetBy {requirement : Requirement} (h : requirement.IsMetBy method) :
    method.implemented = true := by
  cases requirement with
  | accessor interface name => exact (MethodDecl.suppliesAccessor_iff.1 h).1
  | hook which => exact (MethodDecl.suppliesHook_iff.1 h).1

/-- No method is both an accessor and a hook. -/
theorem not_isMetBy_accessor_and_hook {interface : TypeExpr} {name : String} {which : Hook} :
    ¬ ((accessor interface name).IsMetBy method ∧ (hook which).IsMetBy method) := by
  rintro ⟨haccessor, hhook⟩
  obtain ⟨-, -, -, hempty, -⟩ := MethodDecl.suppliesAccessor_iff.1 haccessor
  obtain ⟨-, -, -, parameter, hparameters, -⟩ := MethodDecl.suppliesHook_iff.1 hhook
  rw [hempty] at hparameters
  cases hparameters

end Requirement

namespace TypeDecl

theorem mem_requirements {requirement : Requirement} :
    requirement ∈ type.requirements settings ↔
      (∃ entry ∈ type.interfaces.zip (type.accessors settings).names,
        .accessor entry.1 entry.2 = requirement) ∨
      ∃ which ∈ Hook.all, .hook which = requirement := by
  rw [requirements, List.mem_append, List.mem_map, List.mem_map]

/-- The accessors of a type are told apart by their names. -/
theorem nodup_map_snd_accessors (type : TypeDecl) (settings : Settings) :
    ((type.interfaces.zip (type.accessors settings).names).map Prod.snd).Nodup := by
  rw [List.map_snd_zip (Nat.le_of_eq (type.length_accessors settings))]
  exact Accessor.nodup_names_resolve _ _

/-- A method is at most one of the things that a type has to supply. -/
theorem eq_of_isMetBy {a b : Requirement} (ha : a ∈ type.requirements settings)
    (hb : b ∈ type.requirements settings) (hmeta : a.IsMetBy method) (hmetb : b.IsMetBy method) :
    a = b := by
  rcases mem_requirements.1 ha with ⟨entry, hentry, rfl⟩ | ⟨which, -, rfl⟩ <;>
    rcases mem_requirements.1 hb with ⟨other, hother, rfl⟩ | ⟨another, -, rfl⟩
  -- only two accessors need what is known of all the names; the rest can be read off the method
  · obtain ⟨-, hname, -⟩ := MethodDecl.suppliesAccessor_iff.1 hmeta
    obtain ⟨-, hname', -⟩ := MethodDecl.suppliesAccessor_iff.1 hmetb
    have hnames : entry.2 = other.2 := hname.symm.trans hname'
    rw [List.inj_on_of_nodup_map (type.nodup_map_snd_accessors settings) hentry hother hnames]
  · exact absurd ⟨hmeta, hmetb⟩ Requirement.not_isMetBy_accessor_and_hook
  · exact absurd ⟨hmetb, hmeta⟩ Requirement.not_isMetBy_accessor_and_hook
  · obtain ⟨-, hname, harity, -⟩ := MethodDecl.suppliesHook_iff.1 hmeta
    obtain ⟨-, hname', harity', -⟩ := MethodDecl.suppliesHook_iff.1 hmetb
    rw [Hook.eq_of_methodName_eq (hname.symm.trans hname') (harity.symm.trans harity')]

theorem nodup_requirements (type : TypeDecl) (settings : Settings) :
    (type.requirements settings).Nodup := by
  refine List.nodup_append'.2 ⟨?_, by decide, ?_⟩
  · have hnames := type.nodup_map_snd_accessors settings
    refine (List.Nodup.of_map _ hnames).map_on fun entry _ other _ heq => ?_
    obtain ⟨hinterface, hname⟩ := Requirement.accessor.inj heq
    exact Prod.ext hinterface hname
  · intro requirement haccessor hhook
    obtain ⟨entry, -, rfl⟩ := List.mem_map.1 haccessor
    obtain ⟨which, -, heq⟩ := List.mem_map.1 hhook
    cases heq

theorem length_requirements (type : TypeDecl) (settings : Settings) :
    (type.requirements settings).length = type.interfaces.length + 4 := by
  rw [requirements, List.length_append, List.length_map, List.length_zip,
    type.length_accessors settings, Nat.min_self]
  rfl

end TypeDecl

/-! ## One more method -/

namespace TypeDecl

theorem supplies_withMethod (type : TypeDecl) (method : MethodDecl) {requirement : Requirement} :
    (type.withMethod method).Supplies requirement ↔
      type.Supplies requirement ∨ requirement.IsMetBy method := by
  simp only [Supplies, withMethod, List.mem_append, List.mem_singleton]
  constructor
  · rintro ⟨other, hown | rfl, hmet⟩
    · exact .inl ⟨other, hown, hmet⟩
    · exact .inr hmet
  · rintro (⟨other, hown, hmet⟩ | hmet)
    · exact ⟨other, .inl hown, hmet⟩
    · exact ⟨method, .inr rfl, hmet⟩

/-- One more method takes away what it meets, and nothing else, from what is missing. -/
theorem missing_withMethod (type : TypeDecl) (settings : Settings) (method : MethodDecl) :
    (type.withMethod method).missing settings =
      (type.missing settings).filter fun requirement => ¬ requirement.IsMetBy method := by
  rw [missing, missing, List.filter_filter]
  have hrequirements :
      (type.withMethod method).requirements settings = type.requirements settings := rfl
  rw [hrequirements]
  refine List.filter_congr fun requirement _ => ?_
  rw [← Bool.decide_and, decide_eq_decide, supplies_withMethod, not_or, and_comm]

theorem missing_withMethod_of_not_met
    (h : ∀ requirement ∈ type.missing settings, ¬ requirement.IsMetBy method) :
    (type.withMethod method).missing settings = type.missing settings := by
  rw [missing_withMethod]
  exact List.filter_eq_self.2 fun requirement hmem => decide_eq_true (h requirement hmem)

/-- If a method meets something that is missing, then this alone is no longer missing. -/
theorem exists_missing_withMethod {requirement : Requirement}
    (hmissing : requirement ∈ type.missing settings) (hmet : requirement.IsMetBy method) :
    ∃ earlier later, type.missing settings = earlier ++ requirement :: later ∧
      (type.withMethod method).missing settings = earlier ++ later := by
  obtain ⟨earlier, later, hsplit⟩ := List.append_of_mem hmissing
  refine ⟨earlier, later, hsplit, ?_⟩
  have hnodup : (earlier ++ requirement :: later).Nodup := by
    rw [← hsplit]
    exact (type.nodup_requirements settings).filter _
  have hnew : requirement ∉ earlier ++ later := (List.nodup_middle.1 hnodup).notMem
  have hothers : ∀ other ∈ earlier ++ later, ¬ other.IsMetBy method := by
    intro other hother hmet'
    have hmem : other ∈ type.missing settings := by
      rw [hsplit]
      exact List.perm_middle.mem_iff.2 (List.mem_cons_of_mem _ hother)
    have heq : other = requirement :=
      eq_of_isMetBy (List.mem_of_mem_filter hmem) (List.mem_of_mem_filter hmissing) hmet' hmet
    exact hnew (heq ▸ hother)
  rw [missing_withMethod, hsplit, List.filter_append, List.filter_cons_of_neg (by simpa using hmet),
    ← List.filter_append]
  exact List.filter_eq_self.2 fun other hmem => decide_eq_true (hothers other hmem)

end TypeDecl

/-! ## Diagnostics about missing bodies -/

namespace Analysis

/-- The diagnostics of a type that are not about missing bodies. -/
def remarks (settings : Settings) (snapshot : Snapshot) (type : TypeDecl) : List Diagnostic :=
  collisionReports type (type.accessors settings) ++
    type.interfaces.flatMap (memberReports snapshot type)

theorem not_missingBody_of_mem_remarks {diagnostic : Diagnostic}
    (h : diagnostic ∈ remarks settings snapshot type) : diagnostic.id ≠ Rule.missingBody.id := by
  rcases List.mem_append.1 h with hcollision | hmember
  · rw [id_of_mem_collisionReports hcollision]
    decide
  · obtain ⟨reference, -, hreport⟩ := List.mem_flatMap.1 hmember
    rw [id_of_mem_memberReports hreport]
    decide

/-- The diagnostic for a requirement, if nothing in a type meets it. -/
def reportUnmet? (type : TypeDecl) (requirement : Requirement) : Option Diagnostic :=
  if type.Supplies requirement then none else some (requirement.report type)

theorem accessorReports_eq (type : TypeDecl) (accessors : AccessorChoice) :
    accessorReports type accessors =
      ((type.interfaces.zip accessors.names).map fun entry =>
        Requirement.accessor entry.1 entry.2).filterMap (reportUnmet? type) := by
  rw [accessorReports, List.filterMap_map]
  refine List.filterMap_congr fun entry _ => ?_
  exact if_congr List.any_eq_true rfl rfl

theorem hookReports_eq (type : TypeDecl) :
    hookReports type = (Hook.all.map Requirement.hook).filterMap (reportUnmet? type) := by
  rw [hookReports, List.filterMap_map]
  refine List.filterMap_congr fun which _ => ?_
  exact if_congr List.any_eq_true rfl rfl

theorem filterMap_reportUnmet? (type : TypeDecl) (requirements : List Requirement) :
    requirements.filterMap (reportUnmet? type) =
      (requirements.filter fun requirement => ¬ type.Supplies requirement).map (·.report type) := by
  induction requirements with
  | nil => rfl
  | cons requirement rest ih =>
    by_cases hsupplied : type.Supplies requirement
    · have hnone : reportUnmet? type requirement = none := if_pos hsupplied
      rw [List.filterMap_cons_none hnone, ih, List.filter_cons_of_neg (by simpa using hsupplied)]
    · have hsome : reportUnmet? type requirement = some (requirement.report type) :=
        if_neg hsupplied
      rw [List.filterMap_cons_some hsome, ih, List.filter_cons_of_pos (by simpa using hsupplied),
        List.map_cons]

/-- The diagnostics of a type end with the reports of what is missing. -/
theorem diagnose_eq_remarks_append (settings : Settings) (snapshot : Snapshot)
    (hkind : type.kind ≠ .unresolved) (hinterfaces : type.interfaces ≠ []) :
    diagnose settings snapshot type =
      remarks settings snapshot type ++ (type.missing settings).map (·.report type) := by
  rw [diagnose_eq settings snapshot hkind hinterfaces, List.append_assoc, accessorReports_eq,
    hookReports_eq, ← List.filterMap_append, filterMap_reportUnmet?]
  rfl

/-- A type supplies everything exactly if no missing body is reported. -/
theorem missing_eq_nil_iff (snapshot : Snapshot) (hkind : type.kind ≠ .unresolved)
    (hinterfaces : type.interfaces ≠ []) : type.missing settings = [] ↔
      ∀ diagnostic ∈ diagnose settings snapshot type, diagnostic.id ≠ Rule.missingBody.id := by
  rw [diagnose_eq_remarks_append settings snapshot hkind hinterfaces]
  constructor
  · intro hnone diagnostic hmem
    rw [hnone, List.map_nil, List.append_nil] at hmem
    exact not_missingBody_of_mem_remarks hmem
  · intro h
    refine List.eq_nil_iff_forall_not_mem.2 fun requirement hmem => ?_
    exact h (requirement.report type) (List.mem_append_right _ (List.mem_map_of_mem hmem)) rfl

end Analysis

/-! ## Suppliers -/

namespace TypeDecl

/-- A type that misses nothing has a method of its own for each requirement. -/
theorem exists_suppliers (h : type.missing settings = []) :
    ∃ suppliers, List.Forall₂ Requirement.IsMetBy (type.requirements settings) suppliers ∧
      suppliers.Nodup ∧ suppliers ⊆ type.methods.filter (·.implemented) := by
  -- any choice of suppliers will do, since no two requirements can share one
  have hsupplied : ∀ requirement, ∃ method, requirement ∈ type.requirements settings →
      method ∈ type.methods ∧ requirement.IsMetBy method := by
    intro requirement
    by_cases hmem : requirement ∈ type.requirements settings
    · have hunmet := List.filter_eq_nil_iff.1 h requirement hmem
      obtain ⟨method, hmethod⟩ : type.Supplies requirement := by simpa using hunmet
      exact ⟨method, fun _ => hmethod⟩
    · exact ⟨.returning "" .void, fun h => absurd h hmem⟩
  choose supplier hsupplier using hsupplied
  refine ⟨(type.requirements settings).map supplier, ?_, ?_, ?_⟩
  · rw [List.forall₂_map_right_iff, List.forall₂_same]
    exact fun requirement hmem => (hsupplier requirement hmem).2
  · refine (type.nodup_requirements settings).map_on fun a ha b hb heq => ?_
    exact eq_of_isMetBy ha hb (hsupplier a ha).2 (heq ▸ (hsupplier b hb).2)
  · intro method hmem
    obtain ⟨requirement, hrequirement, rfl⟩ := List.mem_map.1 hmem
    obtain ⟨hmethod, hmet⟩ := hsupplier requirement hrequirement
    exact List.mem_filter.2 ⟨hmethod, Requirement.implemented_of_isMetBy hmet⟩

end TypeDecl

/-- A method meets at most one requirement of a type. Declaring it in addition removes the report of
this requirement from the diagnostics of the type if it was missing, and otherwise leaves them as
they are. So a type with no report of a missing body has different implemented methods for all its
accessors and the four hooks. -/
theorem diagnose_withMethod (settings : Settings) (snapshot : Snapshot)
    (hkind : type.kind ≠ .unresolved) (hinterfaces : type.interfaces ≠ []) :
    (∀ method : MethodDecl,
      (∀ a ∈ type.requirements settings, ∀ b ∈ type.requirements settings,
        a.IsMetBy method → b.IsMetBy method → a = b) ∧
      ((∀ requirement ∈ type.missing settings, ¬ requirement.IsMetBy method) →
        diagnose settings snapshot (type.withMethod method) = diagnose settings snapshot type) ∧
      ∀ requirement ∈ type.missing settings, requirement.IsMetBy method → ∃ earlier later,
        type.missing settings = earlier ++ requirement :: later ∧
        diagnose settings snapshot type = remarks settings snapshot type ++
          (earlier.map (·.report type) ++ requirement.report type :: later.map (·.report type)) ∧
        diagnose settings snapshot (type.withMethod method) = remarks settings snapshot type ++
          (earlier.map (·.report type) ++ later.map (·.report type))) ∧
    ((∀ diagnostic ∈ diagnose settings snapshot type, diagnostic.id ≠ Rule.missingBody.id) →
      ∃ suppliers, List.Forall₂ Requirement.IsMetBy (type.requirements settings) suppliers ∧
        suppliers.Nodup ∧ suppliers.length = type.interfaces.length + 4 ∧
        suppliers ⊆ type.methods ∧
        type.interfaces.length + 4 ≤ type.methods.countP (·.implemented)) := by
  have hdiagnose := diagnose_eq_remarks_append settings snapshot hkind hinterfaces
  have hdiagnose' : ∀ method, diagnose settings snapshot (type.withMethod method) =
      remarks settings snapshot type ++
        ((type.withMethod method).missing settings).map (·.report type) :=
    fun method => diagnose_eq_remarks_append settings snapshot hkind hinterfaces
  refine ⟨fun method => ⟨?_, ?_, ?_⟩, ?_⟩
  · exact fun a ha b hb hmeta hmetb => TypeDecl.eq_of_isMetBy ha hb hmeta hmetb
  · intro hnone
    rw [hdiagnose', TypeDecl.missing_withMethod_of_not_met hnone, ← hdiagnose]
  · intro requirement hmissing hmet
    obtain ⟨earlier, later, hsplit, hwith⟩ := TypeDecl.exists_missing_withMethod hmissing hmet
    refine ⟨earlier, later, hsplit, ?_, ?_⟩
    · rw [hdiagnose, hsplit, List.map_append, List.map_cons]
    · rw [hdiagnose', hwith, List.map_append]
  · intro hclean
    obtain ⟨suppliers, hmet, hnodup, hsubset⟩ :=
      TypeDecl.exists_suppliers ((missing_eq_nil_iff snapshot hkind hinterfaces).2 hclean)
    have hlength : suppliers.length = type.interfaces.length + 4 := by
      rw [← hmet.length_eq, type.length_requirements settings]
    refine ⟨suppliers, hmet, hnodup, hlength,
      fun method hmem => List.mem_of_mem_filter (hsubset hmem), ?_⟩
    rw [← hlength, List.countP_eq_length_filter]
    exact (hnodup.subperm hsubset).length_le

/-- A type with two interfaces of the same simple name, which supplies what it has to but for the
accessor of the second one. -/
def mirrorType : TypeDecl :=
  let hook (name : String) (typeParameters : List String) (result inner : TypeExpr) : MethodDecl :=
    ⟨name, typeParameters, [⟨"doInner", inner, .value, false⟩], result, true⟩
  { TypeDecl.ofClass none "Mirror" with
    interfaces := [.plain (some "A") "IStore", .plain (some "B") "IStore"]
    methods := [
      hook "Decorate" [] .void Framework.action,
      hook "Decorate" ["R"] (.parameter "R") (Framework.func (.parameter "R")),
      hook "DecorateAsync" [] Framework.task (Framework.func Framework.task),
      hook "DecorateAsync" ["R"] (Framework.genericTask (.parameter "R"))
        (Framework.func (Framework.genericTask (.parameter "R"))),
      { MethodDecl.returning "GetInnerA_IStore" (.plain (some "A") "IStore") with
        implemented := true }] }

/-- What `mirrorType` is short of. -/
def mirrorGap : Requirement := .accessor (.plain (some "B") "IStore") "GetInnerB_IStore"

/-- What fills the gap of `mirrorType`. -/
def mirrorAccessor : MethodDecl :=
  { MethodDecl.returning "GetInnerB_IStore" (.plain (some "B") "IStore") with implemented := true }

/-- The accessor that `mirrorType` misses removes its last diagnostic, and leaves it with six methods
for six requirements. -/
theorem diagnose_withMethod_mirror :
    mirrorType.kind ≠ .unresolved ∧ mirrorType.interfaces ≠ [] ∧
    mirrorGap ∈ mirrorType.missing .default ∧ mirrorGap.IsMetBy mirrorAccessor ∧
    diagnose .default ⟨[], []⟩ mirrorType =
      diagnose .default ⟨[], []⟩ (mirrorType.withMethod mirrorAccessor) ++
        [mirrorGap.report mirrorType] ∧
    (diagnose .default ⟨[], []⟩ (mirrorType.withMethod mirrorAccessor)).map (·.id) =
      [Rule.sharedAccessorName.id] ∧
    6 ≤ (mirrorType.withMethod mirrorAccessor).methods.countP (·.implemented) := by
  have hkind : mirrorType.kind ≠ .unresolved := by decide
  have hkind' : (mirrorType.withMethod mirrorAccessor).kind ≠ .unresolved := hkind
  have hinterfaces : mirrorType.interfaces ≠ [] := by decide
  have hmissing : mirrorType.missing .default = [mirrorGap] := by decide +kernel
  have hgap : mirrorGap ∈ mirrorType.missing .default := hmissing ▸ List.mem_singleton_self _
  have hmet : mirrorGap.IsMetBy mirrorAccessor := by decide
  have hids : (diagnose .default ⟨[], []⟩ (mirrorType.withMethod mirrorAccessor)).map (·.id) =
      [Rule.sharedAccessorName.id] := by decide +kernel
  have hclean : ∀ diagnostic ∈ diagnose .default ⟨[], []⟩ (mirrorType.withMethod mirrorAccessor),
      diagnostic.id ≠ Rule.missingBody.id := by
    intro diagnostic hmem
    have hid : diagnostic.id ∈ [Rule.sharedAccessorName.id] := hids ▸ List.mem_map_of_mem hmem
    rw [List.mem_singleton.1 hid]
    decide
  obtain ⟨hmethods, -⟩ := diagnose_withMethod .default ⟨[], []⟩ hkind hinterfaces
  obtain ⟨earlier, later, hsplit, hbefore, hafter⟩ :=
    (hmethods mirrorAccessor).2.2 mirrorGap hgap hmet
  obtain ⟨rfl, rfl⟩ : earlier = [] ∧ later = [] := by
    rcases List.append_eq_singleton_iff.1 (hsplit.symm.trans hmissing) with
      ⟨hearlier, hlater⟩ | ⟨-, hlater⟩
    · exact ⟨hearlier, (List.cons.inj hlater).2⟩
    · cases hlater
  obtain ⟨-, hsuppliers⟩ := diagnose_withMethod .default ⟨[], []⟩ hkind' hinterfaces
  obtain ⟨-, -, -, -, -, hcount⟩ := hsuppliers hclean
  refine ⟨hkind, hinterfaces, hgap, hmet, ?_, hids, hcount⟩
  rw [hbefore, hafter, List.map_nil, List.nil_append, List.append_nil, List.append_nil]

end Forwarder
