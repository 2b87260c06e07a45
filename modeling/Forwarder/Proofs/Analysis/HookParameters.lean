import Forwarder.Proofs.Analysis.HookSignatures
import Forwarder.Proofs.Snapshot.Construction

/-!
# The type parameters of hooks

A generic hook has a type parameter, and the method that supplies it may call its own what it likes:
only the position counts. So the answer is the same under other names, as long as none of them means
something else in the method already, and a method that supplies a hook mentions nothing but its
first type parameter. Other names can be taken back, which makes a single direction enough.
-/

namespace Forwarder

variable {method : MethodDecl} {which : Hook} {names : List String} {name : String}

/-! ## Other names by position -/

namespace MethodDecl

/-- A method with other names for its type parameters, one for each in their order, where it
declares them and wherever it mentions them. -/
def withTypeParameters (names : List String) (method : MethodDecl) : MethodDecl :=
  { method.mapTypes
      (·.subst (.ofArguments method.typeParameters (names.map .parameter))) with
    typeParameters := names }

/-- A type parameter gets the name at its position, and loses it again when the names are taken
back. Whatever else a method mentions stays as it is. -/
theorem subst_parameter_takenBack (hlength : names.length = method.typeParameters.length)
    (hown : method.typeParameters.Nodup) (hnames : names.Nodup)
    (hfresh : name ∈ names → name ∈ method.typeParameters) :
    ((TypeExpr.parameter name).subst
        (.ofArguments method.typeParameters (names.map .parameter))).subst
      (.ofArguments names (method.typeParameters.map .parameter)) = .parameter name := by
  by_cases hdeclared : name ∈ method.typeParameters
  · obtain ⟨position, hposition, rfl⟩ := List.getElem_of_mem hdeclared
    have hbound : position < names.length := by omega
    have hgiven : Assignment.ofArguments method.typeParameters (names.map .parameter)
        method.typeParameters[position] = some (.parameter names[position]) := by
      rw [Assignment.ofArguments_eq_some_iff (by simp [hlength]) hown, List.mem_iff_getElem]
      exact ⟨position, by simp; omega, by simp⟩
    have hback : Assignment.ofArguments names (method.typeParameters.map .parameter)
        names[position] = some (.parameter method.typeParameters[position]) := by
      rw [Assignment.ofArguments_eq_some_iff (by simp [hlength]) hnames, List.mem_iff_getElem]
      exact ⟨position, by simp; omega, by simp⟩
    rw [TypeExpr.subst_parameter_of_some hgiven, TypeExpr.subst_parameter_of_some hback]
  · have hnew : name ∉ names := fun hmem => hdeclared (hfresh hmem)
    have hkept : Assignment.ofArguments method.typeParameters (names.map .parameter) name = none :=
      (Assignment.ofArguments_eq_none_iff (by simp [hlength])).2 hdeclared
    have hkeptBack : Assignment.ofArguments names (method.typeParameters.map .parameter) name =
        none :=
      (Assignment.ofArguments_eq_none_iff (by simp [hlength])).2 hnew
    rw [TypeExpr.subst_parameter_of_none hkept, TypeExpr.subst_parameter_of_none hkeptBack]

/-- Other names can be taken back. -/
theorem withTypeParameters_takenBack (hlength : names.length = method.typeParameters.length)
    (hown : method.typeParameters.Nodup) (hnames : names.Nodup)
    (hfresh : ∀ name ∈ names, name ∈ method.mentioned → name ∈ method.typeParameters) :
    (method.withTypeParameters names).withTypeParameters method.typeParameters = method := by
  have htypes : (method.mapTypes
      (·.subst (.ofArguments method.typeParameters (names.map .parameter)))).mapTypes
        (·.subst (.ofArguments names (method.typeParameters.map .parameter))) =
      method.mapTypes (·.subst fun _ => none) := by
    rw [mapTypes_mapTypes, mapTypes_eq_mapTypes_iff]
    intro type htype
    rw [Function.comp_apply, TypeExpr.subst_subst, TypeExpr.subst_eq_subst_iff]
    intro name hname
    have hmentioned : name ∈ method.mentioned := mem_mentioned.2 ⟨type, htype, hname⟩
    have hkept : (TypeExpr.parameter name).subst (fun _ => none) = .parameter name := rfl
    rw [← TypeExpr.subst_subst, hkept]
    exact subst_parameter_takenBack hlength hown hnames fun hmem => hfresh name hmem hmentioned
  have hsame : method.mapTypes (·.subst fun _ => none) = method := by
    simp only [mapTypes, TypeExpr.subst_none, List.map_id']
  rw [hsame] at htypes
  exact congrArg (fun other : MethodDecl =>
    { other with typeParameters := method.typeParameters }) htypes

end MethodDecl

/-! ## Hooks under other names -/

/-- The types of a hook mention what its type parameter stands for, if it has one, and nothing
else. -/
theorem Hook.mentioned_types {result : TypeExpr}
    (h : name ∈ (which.types result).1.mentioned ∨ name ∈ (which.types result).2.mentioned) :
    which.arity ≠ 0 ∧ name ∈ result.mentioned := by
  cases which with
  | sync | async =>
    simp [types, Framework.action, Framework.func, Framework.task, TypeExpr.plain,
      TypeExpr.construct, TypeExpr.mentioned, TypeExpr.mentionedByAll] at h
  | syncGeneric | asyncGeneric =>
    refine ⟨by decide, ?_⟩
    simpa [types, Framework.func, Framework.genericTask, TypeExpr.construct, TypeExpr.mentioned,
      TypeExpr.mentionedByAll] using h

theorem Hook.nodup_of_length (which : Hook) (h : names.length = which.arity) : names.Nodup := by
  have hfew := which.arity_le_one
  exact List.nodup_iff_count_le_one.2 fun name => List.count_le_length.trans (by omega)

/-- A method that supplies a hook mentions no type parameter but its first. -/
theorem head?_of_suppliesHook (h : method.suppliesHook which = true)
    (hname : name ∈ method.mentioned) : method.typeParameters.head? = some name := by
  obtain ⟨-, -, harity, parameter, hparameters, htypes⟩ := MethodDecl.suppliesHook_iff.1 h
  obtain ⟨type, htype, hin⟩ := MethodDecl.mem_mentioned.1 hname
  have hmentioned : name ∈ (which.types (.parameter (method.typeParameters.headD ""))).1.mentioned ∨
      name ∈ (which.types (.parameter (method.typeParameters.headD ""))).2.mentioned := by
    rw [← htypes]
    rw [MethodDecl.types, hparameters] at htype
    rcases List.mem_cons.1 htype with rfl | htype
    · exact .inl hin
    · rw [List.map_singleton, List.mem_singleton] at htype
      exact .inr (htype ▸ hin)
  obtain ⟨hgeneric, hfirst⟩ := Hook.mentioned_types hmentioned
  obtain ⟨own, hown⟩ := Hook.exists_eq_singleton harity hgeneric
  rw [hown, List.headD_cons, TypeExpr.mem_mentioned_parameter] at hfirst
  rw [hown, hfirst, List.head?_cons]

/-- A method that supplies a hook supplies it under any other names too. -/
theorem suppliesHook_withTypeParameters_of (hlength : names.length = method.typeParameters.length)
    (h : method.suppliesHook which = true) :
    (method.withTypeParameters names).suppliesHook which = true := by
  obtain ⟨himplemented, hname, harity, parameter, hparameters, htypes⟩ :=
    MethodDecl.suppliesHook_iff.1 h
  have hfirst : which.arity ≠ 0 →
      Assignment.ofArguments method.typeParameters (names.map .parameter)
        (method.typeParameters.headD "") = some (.parameter (names.headD "")) := by
    intro hgeneric
    obtain ⟨own, hown⟩ := Hook.exists_eq_singleton harity hgeneric
    obtain ⟨new, rfl⟩ := Hook.exists_eq_singleton (hlength.trans harity) hgeneric
    rw [hown]
    simp [Assignment.ofArguments, Assignment.ofPairs]
  have hsubst := Hook.types_subst hfirst
  rw [← htypes] at hsubst
  have hrenamed : (method.withTypeParameters names).parameters = [{ parameter with
      type := parameter.type.subst
        (.ofArguments method.typeParameters (names.map .parameter)) }] := by
    rw [MethodDecl.withTypeParameters, MethodDecl.mapTypes, hparameters]
    rfl
  exact MethodDecl.suppliesHook_iff.2
    ⟨himplemented, hname, hlength.trans harity, _, hrenamed, hsubst⟩

/-- Hooks are matched by position. Under other names for its type parameters, none of which means
another type parameter in its types, a method supplies the hooks that it supplied, and no others.
A method that supplies a hook mentions no type parameter but its first. -/
theorem suppliesHook_withTypeParameters (method : MethodDecl) (which : Hook) :
    (∀ names : List String, names.length = method.typeParameters.length →
      (∀ name ∈ names, name ∈ method.mentioned → name ∈ method.typeParameters) →
      (method.withTypeParameters names).suppliesHook which = method.suppliesHook which) ∧
    (method.suppliesHook which = true →
      ∀ name ∈ method.mentioned, method.typeParameters.head? = some name) := by
  refine ⟨fun names hlength hfresh => ?_, fun h name hname => head?_of_suppliesHook h hname⟩
  refine Bool.eq_iff_iff.2 ⟨fun h => ?_, suppliesHook_withTypeParameters_of hlength⟩
  have harity : names.length = which.arity := (MethodDecl.suppliesHook_iff.1 h).2.2.1
  have hnames : names.Nodup := which.nodup_of_length harity
  have hown : method.typeParameters.Nodup := which.nodup_of_length (hlength.symm.trans harity)
  -- the names are taken back, which leads from the renamed method to the method itself
  have hback : ((method.withTypeParameters names).withTypeParameters
      method.typeParameters).suppliesHook which = true :=
    suppliesHook_withTypeParameters_of hlength.symm h
  rwa [MethodDecl.withTypeParameters_takenBack hlength hown hnames hfresh] at hback

/-- `decorateResult` supplies its hook under another name for its type parameter, and mentions only
this one. -/
theorem suppliesHook_withTypeParameters_result :
    ["TResult"].length = decorateResult.typeParameters.length ∧
    (∀ name ∈ ["TResult"], name ∈ decorateResult.mentioned →
      name ∈ decorateResult.typeParameters) ∧
    decorateResult.suppliesHook .syncGeneric = true ∧
    (decorateResult.withTypeParameters ["TResult"]).types =
      [.parameter "TResult", Framework.func (.parameter "TResult")] ∧
    (decorateResult.withTypeParameters ["TResult"]).suppliesHook .syncGeneric = true ∧
    ∀ name ∈ decorateResult.mentioned, name = "R" := by
  have hlength : ["TResult"].length = decorateResult.typeParameters.length := rfl
  have hfresh : ∀ name ∈ ["TResult"], name ∈ decorateResult.mentioned →
      name ∈ decorateResult.typeParameters := by decide +kernel
  have hsupplies : decorateResult.suppliesHook .syncGeneric = true := by decide +kernel
  obtain ⟨hsame, hfirst⟩ := suppliesHook_withTypeParameters decorateResult .syncGeneric
  refine ⟨hlength, hfresh, hsupplies, by decide +kernel,
    (hsame _ hlength hfresh).trans hsupplies, ?_⟩
  intro name hname
  exact (Option.some.inj (hfirst hsupplies name hname)).symm

/-- A method that returns what a type parameter of its surroundings stands for. -/
def decorateForeign : MethodDecl :=
  ⟨"Decorate", ["T"], [⟨"inner", Framework.func (.parameter "R"), .value, false⟩],
    .parameter "R", true⟩

/- The names have to be new: under the name that it mentions already, the type parameter of
`decorateForeign` would be taken for the foreign one. -/
example : decorateForeign.suppliesHook .syncGeneric = false ∧
    (decorateForeign.withTypeParameters ["U"]).suppliesHook .syncGeneric = false ∧
    (decorateForeign.withTypeParameters ["R"]).suppliesHook .syncGeneric = true := by
  decide +kernel

end Forwarder
