import Forwarder.Proofs.Analysis.Requirements

/-!
# Hooks as they are declared and as they are supplied

Generated source declares the hooks by fixed texts, whereas a method is taken for a hook by its
structure. Under the names that the declarations use, a method that supplies a hook has the hook's
own structure, and this is written as the declaration says. Only how the parameter takes its
argument is not looked at: a modifier of the parameter is accepted, and comes between the method and
the declaration that it should complete.
-/

namespace Forwarder

open Analysis

variable {method : MethodDecl} {which : Hook} {parameter : ParameterDecl}

/-! ## Names and signatures -/

/-- A method under other names: one for its type parameters, wherever they stand, and one for its
parameters. -/
def MethodDecl.renamed (method : MethodDecl) (typeName parameterName : String) : MethodDecl :=
  let typeNames := method.typeParameters.map fun _ => typeName
  let assignment := Assignment.ofArguments method.typeParameters (typeNames.map .parameter)
  { method with
    typeParameters := typeNames
    parameters := method.parameters.map fun parameter =>
      { parameter with name := parameterName, type := parameter.type.subst assignment }
    returnType := method.returnType.subst assignment }

/-- The signature of a method as it is written. -/
def ForwardedMethod.signatureText (method : ForwardedMethod) : String :=
  method.returnType ++ " " ++ method.name ++ "(" ++ method.parameterText ++ ")"

/-- The signature of a method under the names that hooks are declared with. -/
def MethodDecl.hookSignatureText (method : MethodDecl) : String :=
  (ForwardedMethod.ofDecl (method.renamed "T" "doInner")).signatureText

/-- What is written before the type of a parameter. -/
def ParameterDecl.modifierText (parameter : ParameterDecl) : String :=
  (if parameter.isVariadic then "params " else "") ++ parameter.passing.keyword?.elim "" (· ++ " ")

theorem ParameterDecl.modifierText_eq_empty_iff :
    parameter.modifierText = "" ↔ parameter.passing = .value ∧ parameter.isVariadic = false := by
  unfold modifierText
  generalize parameter.passing = passing
  generalize parameter.isVariadic = isVariadic
  cases passing <;> cases isVariadic <;> decide

/-! ## Hooks as methods -/

/-- A hook as a method, with a parameter that takes its argument as another one does. -/
def Hook.methodLike (which : Hook) (parameter : ParameterDecl) : MethodDecl where
  name := which.methodName
  typeParameters := List.replicate which.arity "T"
  parameters := [{ parameter with name := "doInner", type := (which.types (.parameter "T")).2 }]
  returnType := (which.types (.parameter "T")).1
  implemented := true

/-- Replacing the type parameter of a hook, if it has one, replaces what its types are made of. -/
theorem Hook.types_subst {assignment : Assignment} {name : String} {result : TypeExpr}
    (h : which.arity ≠ 0 → assignment name = some result) :
    (which.types (.parameter name)).map (·.subst assignment) (·.subst assignment) =
      which.types result := by
  cases which with
  | sync | async => rfl
  | syncGeneric | asyncGeneric =>
    have hresult : (TypeExpr.parameter name).subst assignment = result := by
      rw [TypeExpr.subst, h (by decide), Option.getD_some]
    simp only [types, Prod.map, Framework.func, Framework.genericTask, TypeExpr.construct,
      TypeExpr.subst.eq_2, TypeExpr.substAll, hresult]

theorem Hook.arity_le_one (which : Hook) : which.arity ≤ 1 := by cases which <;> decide

/-- A hook that has type parameters has a single one. -/
theorem Hook.exists_eq_singleton {typeParameters : List String}
    (harity : typeParameters.length = which.arity) (hgeneric : which.arity ≠ 0) :
    ∃ own, typeParameters = [own] := by
  have hfew := which.arity_le_one
  exact List.length_eq_one_iff.1 (by omega)

/-- Renaming a hook's type parameter, if there is one, gives it the new name. -/
theorem ofArguments_headD {typeParameters : List String}
    (harity : typeParameters.length = which.arity) (hgeneric : which.arity ≠ 0) (name : String) :
    Assignment.ofArguments typeParameters ((typeParameters.map fun _ => name).map .parameter)
      (typeParameters.headD "") = some (.parameter name) := by
  obtain ⟨own, rfl⟩ := Hook.exists_eq_singleton harity hgeneric
  simp [Assignment.ofArguments, Assignment.ofPairs]

/-- Under the names of the declarations, a method that supplies a hook is the hook. -/
theorem renamed_of_suppliesHook (h : method.suppliesHook which = true) : ∃ parameter,
    method.parameters = [parameter] ∧ method.renamed "T" "doInner" = which.methodLike parameter := by
  obtain ⟨himplemented, hname, harity, parameter, hparameters, htypes⟩ :=
    MethodDecl.suppliesHook_iff.1 h
  have hsubst := Hook.types_subst fun hgeneric => ofArguments_headD harity hgeneric "T"
  rw [← htypes] at hsubst
  have hnames : (method.typeParameters.map fun _ => "T") = List.replicate which.arity "T" := by
    rw [List.map_const', harity]
  refine ⟨parameter, hparameters, ?_⟩
  rw [Hook.methodLike, ← hsubst, ← hname, ← hnames, MethodDecl.renamed, hparameters, himplemented]
  rfl

/-! ## Hooks as texts -/

/-- The name of a hook with its type parameter. -/
def Hook.genericName (which : Hook) : String :=
  if which.arity = 0 then which.methodName else which.methodName ++ "<T>"

theorem Hook.genericName_methodLike (which : Hook) (parameter : ParameterDecl) :
    (which.methodLike parameter).genericName = which.genericName := by
  cases which <;> rfl

theorem Hook.declaration_eq (which : Hook) : which.declaration = "private partial " ++
    ((which.types (.parameter "T")).1.display .full ++ " " ++ which.genericName ++ "(" ++
      (which.types (.parameter "T")).2.display .full ++ " doInner)") ++ ";" := by
  cases which <;> decide +kernel

theorem ForwardedParameter.declaration_ofDecl (h : parameter.type.display .full ≠ "") :
    (ForwardedParameter.ofDecl parameter).declaration =
      parameter.modifierText ++ parameter.type.display .full ++ " " ++ parameter.name := by
  have hwritten : parameter.modifierText ++ parameter.type.display .full ≠ "" :=
    fun hempty => h (String.append_eq_empty_iff.1 hempty).2
  exact if_neg hwritten

/-- The modifiers of the parameter are put into what the declaration of a hook says. -/
theorem Hook.signatureText_methodLike (which : Hook) (parameter : ParameterDecl) :
    (ForwardedMethod.ofDecl (which.methodLike parameter)).signatureText =
      (which.types (.parameter "T")).1.display .full ++ " " ++ which.genericName ++ "(" ++
        parameter.modifierText ++ (which.types (.parameter "T")).2.display .full ++ " doInner)" := by
  have htype : (which.types (.parameter "T")).2.display .full ≠ "" := by
    cases which <;> decide +kernel
  have hparameters : (ForwardedMethod.ofDecl (which.methodLike parameter)).parameterText =
      parameter.modifierText ++ (which.types (.parameter "T")).2.display .full ++ " " ++ "doInner" :=
    ForwardedParameter.declaration_ofDecl htype
  have hname : (ForwardedMethod.ofDecl (which.methodLike parameter)).name = which.genericName :=
    which.genericName_methodLike parameter
  have hclose : " " ++ ("doInner" ++ ")") = " doInner)" := rfl
  rw [ForwardedMethod.signatureText, hparameters, hname, ← hclose]
  simp only [String.append_assoc]
  rfl

/-- A method that supplies a hook is written as the hook is declared, with the modifiers of its
parameter put in. So it is just what is declared if the parameter has no modifiers, and only then. -/
theorem declaration_of_suppliesHook (h : method.suppliesHook which = true) :
    ∃ parameter front type, method.parameters = [parameter] ∧
      which.declaration = "private partial " ++ (front ++ "(" ++ type ++ " doInner)") ++ ";" ∧
      method.hookSignatureText = front ++ "(" ++ parameter.modifierText ++ type ++ " doInner)" ∧
      (which.declaration = "private partial " ++ method.hookSignatureText ++ ";" ↔
        parameter.passing = .value ∧ parameter.isVariadic = false) := by
  obtain ⟨parameter, hparameters, hrenamed⟩ := renamed_of_suppliesHook h
  have hsignature := which.signatureText_methodLike parameter
  rw [← hrenamed] at hsignature
  refine ⟨parameter, _, _, hparameters, which.declaration_eq, hsignature, ?_⟩
  rw [← ParameterDecl.modifierText_eq_empty_iff, which.declaration_eq,
    MethodDecl.hookSignatureText, hsignature]
  constructor
  · intro heq
    have hlength := congrArg String.length heq
    simp only [String.length_append] at hlength
    exact String.length_eq_zero_iff.1 (by omega)
  · intro hempty
    rw [hempty, String.append_empty]

/-- A hook with a result under names of its own. -/
def decorateResult : MethodDecl :=
  ⟨"Decorate", ["R"], [⟨"inner", Framework.func (.parameter "R"), .value, false⟩],
    .parameter "R", true⟩

/-- The names of `decorateResult` make no difference: it completes the declaration. -/
theorem declaration_of_suppliesHook_result : decorateResult.suppliesHook .syncGeneric = true ∧
    Hook.syncGeneric.declaration =
      "private partial " ++ decorateResult.hookSignatureText ++ ";" := by
  have hsupplies : decorateResult.suppliesHook .syncGeneric = true := by decide +kernel
  obtain ⟨parameter, front, type, hparameters, -, -, hiff⟩ := declaration_of_suppliesHook hsupplies
  refine ⟨hsupplies, hiff.2 ?_⟩
  have hparameter : (⟨"inner", Framework.func (.parameter "R"), .value, false⟩ : ParameterDecl) =
      parameter := (List.cons.inj hparameters).1
  rw [← hparameter]
  exact ⟨rfl, rfl⟩

/-- A method that takes its action by reference. -/
def decorateReference : MethodDecl :=
  ⟨"Decorate", [], [⟨"doInner", Framework.action, .reference, false⟩], .void, true⟩

/-- Taking the action by reference is accepted, although the declaration says otherwise. -/
theorem exists_supplied_undeclared : decorateReference.suppliesHook .sync = true ∧
    decorateReference.hookSignatureText = "void Decorate(ref global::System.Action doInner)" ∧
    Hook.sync.declaration = "private partial void Decorate(global::System.Action doInner);" ∧
    Hook.sync.declaration ≠ "private partial " ++ decorateReference.hookSignatureText ++ ";" := by
  refine ⟨?_, ?_, ?_, ?_⟩ <;> decide +kernel

end Forwarder
