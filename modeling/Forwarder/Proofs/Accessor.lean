import Mathlib.Data.List.Nodup
import Mathlib.Data.List.Perm.Subperm
import Mathlib.Data.Nat.Find
import Mathlib.Order.Bounds.Basic
import Forwarder.Accessor
import Forwarder.Proofs.Text.Identifier

/-!
# Names of accessors

Every interface of a decorator gets an accessor name of its own, and with an identifier as the stem
all of them are identifiers. What could go wrong is the search for a free number: it has only one
more try than there are used names. Numbered names with different numbers are different, so the used
names cannot take up all the tries, and the search ends at the least free number.
-/

namespace Forwarder

namespace Accessor

open Text

/-! ## The search for a free number -/

theorem numbered_injective (name : String) : Function.Injective (numbered name) := by
  intro first second h
  rw [numbered, numbered, String.append_right_inj] at h
  have hdigits := congrArg String.toList h
  rw [Nat.toString_eq_repr, Nat.toString_eq_repr, Nat.toList_repr, Nat.toList_repr] at hdigits
  -- the digits of a number can be read back
  have hread := congrArg (Nat.ofDigitChars 10 · 0) hdigits
  simpa only [Nat.ofDigitChars_ten_toDigits] using hread

/-- The numbers from two on that make a name which is not in use. -/
def freeOrdinals (name : String) (used : List String) : Set Nat :=
  {ordinal | 2 ≤ ordinal ∧ numbered name ordinal ∉ used}

/-- Among one more numbers than there are used names, some number is free. -/
theorem exists_mem_freeOrdinals (name : String) (used : List String) :
    ∃ ordinal ∈ freeOrdinals name used, ordinal ≤ used.length + 2 := by
  by_contra hnone
  have hused : (List.range' 2 (used.length + 1)).map (numbered name) ⊆ used := by
    intro candidate hmem
    obtain ⟨ordinal, hrange, rfl⟩ := List.mem_map.1 hmem
    obtain ⟨hlow, hhigh⟩ := List.mem_range'_1.1 hrange
    by_contra hfree
    exact hnone ⟨ordinal, ⟨hlow, hfree⟩, by omega⟩
  have hnodup : ((List.range' 2 (used.length + 1)).map (numbered name)).Nodup :=
    (List.nodup_range' 1).map (numbered_injective name)
  have hlength := (hnodup.subperm hused).length_le
  rw [List.length_map, List.length_range'] at hlength
  omega

/-- If the least free number from an ordinal on is within the tries, the search ends there. -/
theorem freshFrom_eq {name : String} {used : List String} {start tries ordinal : Nat}
    (hleast : IsLeast {n | start ≤ n ∧ numbered name n ∉ used} ordinal)
    (htries : ordinal < start + tries) :
    freshFrom name used start tries = numbered name ordinal := by
  induction tries generalizing start with
  | zero =>
    have hstart : start ≤ ordinal := hleast.1.1
    omega
  | succ tries ih =>
    obtain ⟨⟨hstart, hfree⟩, hmin⟩ := hleast
    rw [freshFrom]
    split
    · rename_i hused
      have hne : start ≠ ordinal := by
        rintro rfl
        exact hfree hused
      refine ih ⟨⟨by omega, hfree⟩, fun n hn => ?_⟩ (by omega)
      exact hmin ⟨Nat.le_of_succ_le hn.1, hn.2⟩
    · rename_i hunused
      have hle : ordinal ≤ start := hmin ⟨Nat.le_refl start, hunused⟩
      rw [Nat.le_antisymm hle hstart]

/-- The search for a free number ends at the least one. -/
theorem exists_isLeast_fresh (name : String) (used : List String) :
    ∃ ordinal, IsLeast (freeOrdinals name used) ordinal ∧
      ordinal ≤ used.length + 2 ∧ fresh name used = numbered name ordinal := by
  classical
  have hexists : ∃ ordinal, ordinal ∈ freeOrdinals name used := by
    obtain ⟨ordinal, hmem, -⟩ := exists_mem_freeOrdinals name used
    exact ⟨ordinal, hmem⟩
  have hleast : IsLeast (freeOrdinals name used) (Nat.find hexists) :=
    ⟨Nat.find_spec hexists, fun _ hmem => Nat.find_min' hexists hmem⟩
  have hbound : Nat.find hexists ≤ used.length + 2 := by
    obtain ⟨ordinal, hmem, hle⟩ := exists_mem_freeOrdinals name used
    exact Nat.le_trans (hleast.2 hmem) hle
  exact ⟨_, hleast, hbound, freshFrom_eq hleast (by omega)⟩

theorem fresh_not_mem (name : String) (used : List String) : fresh name used ∉ used := by
  obtain ⟨ordinal, hleast, -, heq⟩ := exists_isLeast_fresh name used
  rw [heq]
  exact hleast.1.2

/-! ## Telling names apart -/

/-- The name that stands for a name when some have been taken. -/
def chosen (owned taken : List String) (name : String) : String :=
  if name ∈ taken then fresh name (owned ++ taken) else name

theorem distinguish_cons (owned taken : List String) (name : String) (rest : List String) :
    distinguish owned taken (name :: rest) =
      chosen owned taken name :: distinguish owned (chosen owned taken name :: taken) rest := by
  rw [distinguish, chosen]
  split <;> rfl

theorem chosen_not_mem (owned taken : List String) (name : String) :
    chosen owned taken name ∉ taken := by
  rw [chosen]
  split
  · intro hmem
    exact fresh_not_mem name (owned ++ taken) (List.mem_append_right owned hmem)
  · assumption

theorem length_distinguish (owned taken names : List String) :
    (distinguish owned taken names).length = names.length := by
  induction names generalizing taken with
  | nil => rfl
  | cons name rest ih => rw [distinguish_cons, List.length_cons, ih, List.length_cons]

/-- No name that has been taken is given again. -/
theorem not_mem_taken_of_mem_distinguish {owned taken names : List String} {name : String}
    (h : name ∈ distinguish owned taken names) : name ∉ taken := by
  induction names generalizing taken with
  | nil => cases h
  | cons first rest ih =>
    rw [distinguish_cons] at h
    rcases List.mem_cons.1 h with rfl | hlater
    · exact chosen_not_mem owned taken first
    · exact fun hmem => ih hlater (List.mem_cons_of_mem _ hmem)

/-- Names that have been told apart are pairwise different. -/
theorem nodup_distinguish (owned taken names : List String) :
    (distinguish owned taken names).Nodup := by
  induction names generalizing taken with
  | nil => exact List.nodup_nil
  | cons name rest ih =>
    rw [distinguish_cons]
    refine List.nodup_cons.2 ⟨fun hmem => ?_, ih _⟩
    exact not_mem_taken_of_mem_distinguish hmem List.mem_cons_self

/-- What holds of some names, and of every name with a number if it holds of the name, holds of the
names told apart. -/
theorem forall_distinguish {P : String → Prop} {owned taken names : List String}
    (hnames : ∀ name ∈ names, P name)
    (hnumbered : ∀ name ordinal, P name → P (numbered name ordinal)) :
    ∀ name ∈ distinguish owned taken names, P name := by
  induction names generalizing taken with
  | nil => exact fun name hmem => absurd hmem List.not_mem_nil
  | cons first rest ih =>
    have hfirst : P first := hnames first List.mem_cons_self
    intro name hmem
    rw [distinguish_cons] at hmem
    rcases List.mem_cons.1 hmem with rfl | hlater
    · rw [chosen]
      split
      · obtain ⟨ordinal, -, -, heq⟩ := exists_isLeast_fresh first (owned ++ taken)
        rw [heq]
        exact hnumbered first ordinal hfirst
      · exact hfirst
    · exact ih (fun other hother => hnames other (List.mem_cons_of_mem _ hother)) name hlater

/-! ## Names that are identifiers -/

theorem isIdentifier_numbered {name : String} (h : isIdentifier name = true) (ordinal : Nat) :
    isIdentifier (numbered name ordinal) = true := by
  rw [numbered, String.append_assoc]
  refine isIdentifier_append h fun c hmem => ?_
  rw [String.toList_append] at hmem
  rcases List.mem_append.1 hmem with hseparator | hdigit
  · obtain rfl := List.mem_singleton.1 hseparator
    exact isWordChar_underscore
  · exact isWordChar_of_mem_toString hdigit

theorem isIdentifier_nameFor {stem : String} (h : isIdentifier stem = true) (display : String) :
    isIdentifier (nameFor stem display) = true :=
  isIdentifier_append h fun _ hmem => isWordChar_of_mem_joinWords hmem

theorem exists_of_mem_baseNames {stem : String} {interfaces : List InterfaceDisplays}
    {colliding : List Nat} {name : String} (h : name ∈ baseNames stem interfaces colliding) :
    ∃ display, name = nameFor stem display := by
  obtain ⟨position, -, rfl⟩ := List.mem_mapIdx.1 h
  split
  · exact ⟨_, rfl⟩
  · exact ⟨_, rfl⟩

/-! ## The names of one decorator -/

/-- Every interface gets one name. -/
theorem length_names_resolve (stem : String) (interfaces : List InterfaceDisplays) :
    (resolve stem interfaces).names.length = interfaces.length := by
  rw [resolve, length_distinguish, baseNames, List.length_mapIdx]

/-- The interfaces of one decorator have pairwise different accessor names, whatever the stem. -/
theorem nodup_names_resolve (stem : String) (interfaces : List InterfaceDisplays) :
    (resolve stem interfaces).names.Nodup :=
  nodup_distinguish _ _ _

/-- With an identifier as the stem, every interface gets a name of its own that is an identifier.
The search for a free number never runs out of tries: whatever names are in use, it comes to the
least number from two on whose name is not. -/
theorem names_sound {stem : String} (hstem : isIdentifier stem = true)
    (interfaces : List InterfaceDisplays) :
    (resolve stem interfaces).names.length = interfaces.length ∧
    (resolve stem interfaces).names.Nodup ∧
    (∀ name ∈ (resolve stem interfaces).names, isIdentifier name = true) ∧
    ∀ name used, ∃ ordinal, IsLeast (freeOrdinals name used) ordinal ∧
      ordinal ≤ used.length + 2 ∧ fresh name used = numbered name ordinal := by
  refine ⟨length_names_resolve stem interfaces, nodup_names_resolve stem interfaces, ?_,
    exists_isLeast_fresh⟩
  refine forall_distinguish (fun base hbase => ?_) fun _ ordinal h =>
    isIdentifier_numbered h ordinal
  obtain ⟨display, rfl⟩ := exists_of_mem_baseNames hbase
  exact isIdentifier_nameFor hstem display

/-- Two interfaces with displays that fold alike even when qualified, and a third one whose simple
name is the numbered name that the second one would get. -/
def contested : List InterfaceDisplays := [
  ⟨"IX", "global::A.B_C.IX"⟩, ⟨"IX", "global::A_B.C.IX"⟩, ⟨"A_B_C_IX_2", "global::Z.A_B_C_IX_2"⟩]

/-- The names of contested interfaces skip the number that the third one owns. -/
theorem names_sound_contested : isIdentifier "GetInner" = true ∧
    (resolve "GetInner" contested).names =
      ["GetInnerA_B_C_IX", "GetInnerA_B_C_IX_3", "GetInnerA_B_C_IX_2"] ∧
    (resolve "GetInner" contested).names.Nodup ∧
    ∀ name ∈ (resolve "GetInner" contested).names, isIdentifier name = true := by
  have hstem : isIdentifier "GetInner" = true := by decide +kernel
  obtain ⟨-, hnodup, hidentifier, -⟩ := names_sound hstem contested
  exact ⟨hstem, by decide +kernel, hnodup, hidentifier⟩

end Accessor

end Forwarder
