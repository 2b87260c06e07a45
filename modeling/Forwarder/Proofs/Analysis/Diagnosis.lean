import Forwarder.Analysis

/-!
# The parts of a diagnosis

The diagnostics of a type that declares interfaces come in four parts, one after the other, and each
part reports one rule: shared accessor names, members that are not forwarded, and bodies that are
missing, first those of accessors and then those of hooks. So the diagnostics of a rule can be told
from the parts that report it.
-/

namespace Forwarder

namespace Analysis

variable {settings : Settings} {snapshot : Snapshot} {type : TypeDecl}

/-- The diagnostics of a type that did resolve and declares interfaces. -/
theorem diagnose_eq (settings : Settings) (snapshot : Snapshot) (hkind : type.kind ≠ .unresolved)
    (hinterfaces : type.interfaces ≠ []) :
    diagnose settings snapshot type =
      collisionReports type (type.accessors settings) ++
        type.interfaces.flatMap (memberReports snapshot type) ++
        accessorReports type (type.accessors settings) ++ hookReports type := by
  rw [diagnose, if_neg hkind, if_neg (by simpa using hinterfaces)]

theorem id_of_mem_collisionReports {accessors : AccessorChoice} {diagnostic : Diagnostic}
    (h : diagnostic ∈ collisionReports type accessors) :
    diagnostic.id = Rule.sharedAccessorName.id := by
  obtain ⟨group, -, rfl⟩ := List.mem_map.1 h
  rfl

theorem id_of_mem_memberReports {reference : TypeExpr} {diagnostic : Diagnostic}
    (h : diagnostic ∈ memberReports snapshot type reference) :
    diagnostic.id = Rule.unforwardedMember.id := by
  rw [memberReports] at h
  split at h
  · cases h
  · obtain ⟨member, -, hreport⟩ := List.mem_filterMap.1 h
    split at hreport
    · cases hreport
    · cases hreport
      rfl

theorem id_of_mem_accessorReports {accessors : AccessorChoice} {diagnostic : Diagnostic}
    (h : diagnostic ∈ accessorReports type accessors) : diagnostic.id = Rule.missingBody.id := by
  obtain ⟨entry, -, hreport⟩ := List.mem_filterMap.1 h
  simp only at hreport
  split at hreport
  · cases hreport
  · cases hreport
    rfl

theorem id_of_mem_hookReports {diagnostic : Diagnostic} (h : diagnostic ∈ hookReports type) :
    diagnostic.id = Rule.missingBody.id := by
  obtain ⟨hook, -, hreport⟩ := List.mem_filterMap.1 h
  split at hreport
  · cases hreport
  · cases hreport
    rfl

end Analysis

end Forwarder
