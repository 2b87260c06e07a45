import Mathlib.Data.List.Basic
import Forwarder.TypeExpr.Substitution

/-!
# The type parameters that a reference mentions

What an assignment makes of a reference depends on nothing but what it makes of the type parameters
that the reference mentions, and two assignments make the same of a reference only if they agree on
all of these. Giving type parameters other names is a replacement like any other, and two
replacements one after the other are one, so every question about the order of renaming and
replacement comes down to single type parameters.
-/

namespace Forwarder

namespace Assignment

/-- The assignment that gives type parameters other names. -/
def ofNames (rename : String → String) : Assignment := fun name => some (.parameter (rename name))

/-- What two assignments, the one after the other, make of every type parameter. -/
def andThen (first second : Assignment) : Assignment := fun name =>
  some (((TypeExpr.parameter name).subst first).subst second)

end Assignment

namespace TypeExpr

variable {assignment other : Assignment} {rename : String → String} {name : String}

/-! ## Mentions -/

mutual

/-- The type parameters that a reference mentions. -/
def mentioned : TypeExpr → List String
  | .void | .unresolved _ => []
  | .named _ arguments => mentionedByAll arguments
  | .parameter name => [name]
  | .array element _ => element.mentioned
  | .pointer pointee => pointee.mentioned
  | .nullable underlying => underlying.mentioned

/-- The type parameters that several references mention. -/
def mentionedByAll : List TypeExpr → List String
  | [] => []
  | argument :: rest => argument.mentioned ++ mentionedByAll rest

end

theorem mentionedByAll_eq_flatMap (arguments : List TypeExpr) :
    mentionedByAll arguments = arguments.flatMap mentioned := by
  induction arguments with
  | nil => rfl
  | cons argument rest ih => rw [mentionedByAll, ih, List.flatMap_cons]

/-- A named type mentions what its arguments mention. -/
theorem mem_mentioned_named {head : TypeName} {arguments : List TypeExpr} :
    name ∈ (named head arguments).mentioned ↔
      ∃ argument ∈ arguments, name ∈ argument.mentioned := by
  rw [mentioned, mentionedByAll_eq_flatMap, List.mem_flatMap]

theorem mem_mentioned_parameter {own : String} : name ∈ (parameter own).mentioned ↔ name = own :=
  List.mem_singleton

/-! ## Replacement -/

/-- Two assignments make the same of a reference exactly if they make the same of everything that it
mentions. -/
theorem subst_eq_subst_iff {type : TypeExpr} :
    type.subst assignment = type.subst other ↔
      ∀ name ∈ type.mentioned, (parameter name).subst assignment = (parameter name).subst other := by
  induction type using TypeExpr.induct with
  | void | unresolved _ => simp [subst, mentioned]
  | named head arguments ih =>
    have harguments : (named head arguments).subst assignment =
        (named head arguments).subst other ↔
          ∀ argument ∈ arguments, argument.subst assignment = argument.subst other := by
      simp only [subst, substAll_eq_map, named.injEq, true_and, List.map_inj_left]
    rw [harguments]
    simp only [mem_mentioned_named]
    constructor
    · rintro h name ⟨argument, hmem, hname⟩
      exact (ih argument hmem).1 (h argument hmem) name hname
    · intro h argument hmem
      exact (ih argument hmem).2 fun name hname => h name ⟨argument, hmem, hname⟩
  | parameter own => simp only [mem_mentioned_parameter, forall_eq]
  | array element rank ih =>
    rw [subst, subst, array.injEq, mentioned, ih]
    exact and_iff_left rfl
  | pointer pointee ih => rw [subst, subst, pointer.injEq, mentioned, ih]
  | nullable underlying ih => rw [subst, subst, nullable.injEq, mentioned, ih]

/-- Two replacements one after the other are one. -/
theorem subst_subst (type : TypeExpr) (first second : Assignment) :
    (type.subst first).subst second = type.subst (first.andThen second) := by
  induction type using TypeExpr.induct with
  | void | unresolved _ => rfl
  | named head arguments ih =>
    simp only [subst, substAll_eq_map, List.map_map, named.injEq, true_and]
    exact List.map_congr_left ih
  | parameter own => rfl
  | array element rank ih => rw [subst, subst, subst, ih]
  | pointer pointee ih => rw [subst, subst, subst, ih]
  | nullable underlying ih => rw [subst, subst, subst, ih]

/-- After a replacement a reference mentions what the types mention that have been put in. -/
theorem mem_mentioned_subst {type : TypeExpr} :
    name ∈ (type.subst assignment).mentioned ↔
      ∃ own ∈ type.mentioned, name ∈ ((parameter own).subst assignment).mentioned := by
  induction type using TypeExpr.induct with
  | void | unresolved _ => simp [subst, mentioned]
  | named head arguments ih =>
    rw [subst, substAll_eq_map]
    simp only [mem_mentioned_named, List.mem_map, exists_exists_and_eq_and]
    constructor
    · rintro ⟨argument, hmem, hname⟩
      obtain ⟨own, hown, hgiven⟩ := (ih argument hmem).1 hname
      exact ⟨own, ⟨argument, hmem, hown⟩, hgiven⟩
    · rintro ⟨own, ⟨argument, hmem, hown⟩, hgiven⟩
      exact ⟨argument, hmem, (ih argument hmem).2 ⟨own, hown, hgiven⟩⟩
  | parameter own => simp only [mem_mentioned_parameter, exists_eq_left]
  | array element rank ih => rw [subst, mentioned, mentioned, ih]
  | pointer pointee ih => rw [subst, mentioned, mentioned, ih]
  | nullable underlying ih => rw [subst, mentioned, mentioned, ih]

/-- Where nothing is given, nothing is replaced. -/
theorem subst_none (type : TypeExpr) : type.subst (fun _ => none) = type := by
  induction type using TypeExpr.induct with
  | void | unresolved _ => rfl
  | named head arguments ih =>
    simp only [subst, substAll_eq_map, named.injEq, true_and]
    exact (List.map_congr_left ih).trans (List.map_id' arguments)
  | parameter own => rfl
  | array element rank ih => rw [subst, ih]
  | pointer pointee ih => rw [subst, ih]
  | nullable underlying ih => rw [subst, ih]

theorem subst_parameter_of_none (h : assignment name = none) :
    (parameter name).subst assignment = .parameter name := by
  rw [subst, h, Option.getD_none]

theorem subst_parameter_of_some {given : TypeExpr} (h : assignment name = some given) :
    (parameter name).subst assignment = given := by
  rw [subst, h, Option.getD_some]

/-! ## Other names -/

mutual

/-- A reference with other names for its type parameters. -/
def renamed (rename : String → String) : TypeExpr → TypeExpr
  | .void => .void
  | .named head arguments => .named head (renamedAll rename arguments)
  | .parameter name => .parameter (rename name)
  | .array element rank => .array (element.renamed rename) rank
  | .pointer pointee => .pointer (pointee.renamed rename)
  | .nullable underlying => .nullable (underlying.renamed rename)
  | .unresolved name => .unresolved name

/-- Several references with other names for their type parameters. -/
def renamedAll (rename : String → String) : List TypeExpr → List TypeExpr
  | [] => []
  | argument :: rest => argument.renamed rename :: renamedAll rename rest

end

theorem renamedAll_eq_map (rename : String → String) (arguments : List TypeExpr) :
    renamedAll rename arguments = arguments.map (renamed rename) := by
  induction arguments with
  | nil => rfl
  | cons argument rest ih => rw [renamedAll, ih, List.map_cons]

/-- Other names for some type parameters; all others keep theirs. -/
def renameOnly (names : List String) (rename : String → String) (name : String) : String :=
  if name ∈ names then rename name else name

theorem renameOnly_of_mem {names : List String} (h : name ∈ names) :
    renameOnly names rename name = rename name :=
  if_pos h

theorem renameOnly_of_not_mem {names : List String} (h : name ∉ names) :
    renameOnly names rename name = name :=
  if_neg h

/-- Other names are put in like types. -/
theorem renamed_eq_subst (rename : String → String) (type : TypeExpr) :
    type.renamed rename = type.subst (.ofNames rename) := by
  induction type using TypeExpr.induct with
  | void | unresolved _ => rfl
  | named head arguments ih =>
    simp only [renamed, subst, renamedAll_eq_map, substAll_eq_map, named.injEq, true_and]
    exact List.map_congr_left ih
  | parameter own => rfl
  | array element rank ih => rw [renamed, subst, ih]
  | pointer pointee ih => rw [renamed, subst, ih]
  | nullable underlying ih => rw [renamed, subst, ih]

/-- A reference stays as it is exactly if everything that it mentions keeps its name. -/
theorem renamed_eq_self_iff {type : TypeExpr} :
    type.renamed rename = type ↔ ∀ name ∈ type.mentioned, rename name = name := by
  have hparameter : ∀ name, (parameter name).subst (.ofNames rename) =
      (parameter name).subst (fun _ => none) ↔ rename name = name := fun name =>
    iff_of_eq (parameter.injEq (rename name) name)
  calc type.renamed rename = type
      ↔ type.subst (.ofNames rename) = type.subst fun _ => none := by
        rw [renamed_eq_subst, subst_none]
    _ ↔ ∀ name ∈ type.mentioned, rename name = name := by
        rw [subst_eq_subst_iff]
        simp only [hparameter]

end TypeExpr

end Forwarder
