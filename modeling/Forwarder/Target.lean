import Forwarder.Text.GlobalAlias

/-!
# Targets

A target is the identity of a type that output is generated for: its namespace, written from the
global alias on, and its simple name. Outputs are cached under it, and the name of the emitted
source unit is made from it. Targets are ordered by namespace, the global one first, then by name.
-/

namespace Forwarder

open Text

/-- The identity of a type that output is generated for. -/
structure Target where
  /-- The containing namespace with its global alias; absent for the global namespace. -/
  scope : Option String
  /-- The simple name of the type. -/
  name : String
  deriving DecidableEq, Repr

/-- The name of an emitted source unit. -/
abbrev UnitName := String

/-- The name of the unit for a type: the namespace without its alias, if that leaves anything, the
type name, and a suffix. -/
def unitNameOf (scope : Option String) (name suffix : String) : UnitName :=
  match scope.map stripGlobal with
  | none => name ++ suffix
  | some "" => name ++ suffix
  | some scope => scope ++ "." ++ name ++ suffix

namespace Target

/-- The namespace as a namespace declaration writes it. -/
def declaredScope (target : Target) : Option String := target.scope.map stripGlobal

/-- The name of the target's source unit. -/
def unitName (target : Target) (suffix : String) : UnitName :=
  unitNameOf target.scope target.name suffix

/-- The dotted name of a target. -/
def display (target : Target) : String :=
  match target.declaredScope with
  | none => target.name
  | some scope => scope ++ "." ++ target.name

/-! ## Order -/

/-- Whether one target comes before another. -/
def Before (a b : Target) : Prop :=
  match a.scope, b.scope with
  | none, none => a.name < b.name
  | none, some _ => True
  | some _, none => False
  | some s, some t => s < t ∨ s = t ∧ a.name < b.name

instance : DecidableRel Before := fun a b => by
  unfold Before
  cases a.scope <;> cases b.scope <;> simp only <;> infer_instance

/-- No target comes before itself. -/
theorem not_before_self (a : Target) : ¬ a.Before a := by
  unfold Before
  cases a.scope <;> simp

/-- Coming before is transitive. -/
theorem before_trans {a b c : Target} (hab : a.Before b) (hbc : b.Before c) : a.Before c := by
  obtain ⟨sa, na⟩ := a
  obtain ⟨sb, nb⟩ := b
  obtain ⟨sc, nc⟩ := c
  cases sa <;> cases sb <;> cases sc <;> simp only [Before] at hab hbc ⊢ <;> try contradiction
  · exact String.lt_trans hab hbc
  · rcases hab with hab | ⟨rfl, hab⟩ <;> rcases hbc with hbc | ⟨rfl, hbc⟩
    · exact Or.inl (String.lt_trans hab hbc)
    · exact Or.inl hab
    · exact Or.inl hbc
    · exact Or.inr ⟨rfl, String.lt_trans hab hbc⟩

/-- Of two different targets one comes before the other. -/
theorem before_total {a b : Target} (h : a ≠ b) (hba : ¬ b.Before a) : a.Before b := by
  have total : ∀ s t : String, s ≠ t → ¬ t < s → s < t := fun s t hne hts => by
    by_cases hst : s < t
    · exact hst
    · exact absurd (String.le_antisymm (String.not_lt.1 hts) (String.not_lt.1 hst)) hne
  obtain ⟨sa, na⟩ := a
  obtain ⟨sb, nb⟩ := b
  cases sa <;> cases sb <;>
    simp only [Before, ne_eq, mk.injEq, true_and, not_true_eq_false] at h hba ⊢
  · exact total _ _ h hba
  · rename_i s t
    by_cases hst : s = t
    · subst hst
      simp only [true_and] at h hba
      exact Or.inr ⟨rfl, total _ _ (by simpa using h) fun hlt => hba (Or.inr hlt)⟩
    · exact Or.inl (total _ _ hst fun hlt => hba (Or.inl hlt))

end Target

end Forwarder
