import Forwarder.Source.Generation

/-!
# What the built-in templates come to

The two built-in templates find every field that they name, so filling them never fails, whatever
the decorator. The text they come to is written out here without templates. What remains that can
keep a decorator from having a source unit is the name of the unit, and with it the target alone.
-/

namespace Forwarder

/-! ## The texts -/

/-- The implementation of a forwarded method. -/
def ForwardedMethod.sourceText (interface : DecoratedInterface) (method : ForwardedMethod) :
    String :=
  String.join ["\n    ", method.returnType, " ", interface.fullName, ".", method.name, "(",
    method.parameterText, ") => ", Hook.nameFor method.isAwaited, "(() => ", interface.accessor,
    "().", method.name, "(", method.argumentText, "));"]

/-- The accessor of an interface, and the implementations of its methods. -/
def DecoratedInterface.sourceText (interface : DecoratedInterface) : String :=
  String.join ["\n\n    private partial ", interface.fullName, " ", interface.accessor, "();",
    String.join (interface.methods.map (·.sourceText interface))]

/-- The namespace declaration of a target, unless it has none to write. -/
def Target.scopeText (target : Target) : String :=
  match target.declaredScope with
  | none => ""
  | some scope => if scope = "" then "" else String.join ["\nnamespace ", scope, ";"]

/-- The generated half of a decorator. -/
def Decorator.sourceText (decorator : Decorator) : String :=
  String.join ["// <auto-generated/>", decorator.target.scopeText, "\n\npartial class ",
    decorator.target.name, "\n\x7b",
    String.join (Hook.all.map fun hook => String.join ["\n    ", hook.declaration]),
    String.join (decorator.interfaces.map (·.sourceText)), "\n\x7d\n"]

/-- The declaration of the marker attribute. -/
def Settings.markerText (settings : Settings) : String :=
  String.join ["// <auto-generated/>\nnamespace ", settings.markerScope, "\n\x7b\n" ++
    "    [global::System.AttributeUsage(global::System.AttributeTargets.Class, " ++
    "AllowMultiple = false, Inherited = false)]\n    internal sealed class ",
    settings.markerName, " : global::System.Attribute\n    \x7b\n    \x7d\n\x7d\n"]

/-! ## Filling -/

/-- Parts that all have a text come to these texts in a row. -/
theorem fillAll_eq_join {context : Json} {parts : List TemplatePart} {texts : List String}
    (h : parts.mapM (TemplatePart.fill context) = some texts) :
    fillAll context parts = some (String.join texts) := by
  induction parts generalizing texts with
  | nil =>
    obtain rfl : [] = texts := by simpa using h
    simp [fillAll]
  | cons part rest ih =>
    rw [List.mapM_cons] at h
    obtain ⟨first, hfirst, h⟩ := Option.bind_eq_some_iff.1 h
    obtain ⟨others, hothers, h⟩ := Option.bind_eq_some_iff.1 h
    obtain rfl : first :: others = texts := by simpa using h
    rw [fillAll, hfirst, ih hothers, String.join_cons]
    rfl

theorem fill_text (context : Json) (content : String) :
    TemplatePart.fill context (.text content) = some content := by
  rw [TemplatePart.fill]

theorem fill_field {context : Json} {text : String} (name : String)
    (h : context.field? name = some (.string text)) :
    TemplatePart.fill context (.field name) = some text := by
  rw [TemplatePart.fill, h, Option.map_some, Json.filled]

/-- A repetition joins the texts of its items, when each of them has one. -/
theorem fill_each {α : Type} {context : Json} {body : Template} {filling : α → Json}
    {text : α → String} (name : String) (items : List α)
    (hfield : context.field? name = some (.array (items.map filling)))
    (htext : ∀ item, fillAll (filling item) body = some (text item)) :
    TemplatePart.fill context (.each name body) = some (String.join (items.map text)) := by
  have hmapM : (items.map filling).mapM (fun item => fillAll item body) =
      some (items.map text) := by
    have hcomp : (fun item => fillAll item body) ∘ filling = fun item => some (text item) :=
      funext htext
    rw [List.mapM_map, hcomp]
    exact List.mapM_pure
  rw [TemplatePart.fill, hfield]
  simp [Json.repeated?, hmapM]

theorem fillAll_methodLayout (interface : DecoratedInterface) (method : ForwardedMethod) :
    fillAll (method.filling interface) methodLayout = some (method.sourceText interface) := by
  refine fillAll_eq_join ?_
  simp only [methodLayout, List.mapM_cons, List.mapM_nil, fill_text]
  rw [fill_field "return_type" rfl, fill_field "interface_name" rfl,
    fill_field "name" rfl, fill_field "parameter_list" rfl,
    fill_field "hook" rfl, fill_field "accessor_name" rfl,
    fill_field "argument_list" rfl]
  rfl

theorem fillAll_interfaceLayout (interface : DecoratedInterface) :
    fillAll interface.filling interfaceLayout = some interface.sourceText := by
  refine fillAll_eq_join ?_
  simp only [interfaceLayout, List.mapM_cons, List.mapM_nil, fill_text]
  rw [fill_field "fully_qualified_name" rfl, fill_field "accessor_name" rfl,
    fill_each "members" _ rfl (fillAll_methodLayout interface)]
  rfl

/-- The conditional namespace declaration is always filled. -/
theorem fill_scope (decorator : Decorator) :
    TemplatePart.fill decorator.filling
      (.when "namespace" [.text "\nnamespace ", .field "namespace", .text ";"]) =
        some decorator.target.scopeText := by
  have hfield : decorator.filling.field? "namespace" =
      some (Json.optionalString decorator.target.declaredScope) := rfl
  rw [TemplatePart.fill, hfield, Target.scopeText]
  cases hscope : decorator.target.declaredScope with
  | none => rfl
  | some scope =>
    rw [hscope] at hfield
    by_cases hempty : scope = ""
    · subst hempty
      rfl
    · have hbody : fillAll decorator.filling
          [.text "\nnamespace ", .field "namespace", .text ";"] =
            some (String.join ["\nnamespace ", scope, ";"]) := by
        refine fillAll_eq_join ?_
        simp only [List.mapM_cons, List.mapM_nil, fill_text, fill_field _ hfield]
        rfl
      simp [Json.optionalString, Json.fulfils, hempty, hbody]

/-- A decorator's template is always filled. -/
theorem fillAll_decoratorLayout (decorator : Decorator) :
    fillAll decorator.filling decoratorLayout = some decorator.sourceText := by
  have hhook : ∀ hook : Hook, fillAll (.string hook.declaration) [.text "\n    ", .this] =
      some (String.join ["\n    ", hook.declaration]) := by
    intro hook
    refine fillAll_eq_join ?_
    simp only [List.mapM_cons, List.mapM_nil, TemplatePart.fill, Json.filled]
    rfl
  refine fillAll_eq_join ?_
  simp only [decoratorLayout, List.mapM_cons, List.mapM_nil, fill_text, fill_scope]
  rw [fill_field "class_name" rfl,
    fill_each "hooks" Hook.all rfl hhook,
    fill_each "interfaces" _ rfl fillAll_interfaceLayout]
  rfl

theorem fillAll_markerLayout (settings : Settings) :
    fillAll settings.markerFilling markerLayout = some settings.markerText := by
  refine fillAll_eq_join ?_
  simp only [markerLayout, List.mapM_cons, List.mapM_nil, fill_text]
  rw [fill_field "namespace" rfl, fill_field "name" rfl]
  rfl

/-! ## Units -/

/-- A decorator fails to have a unit exactly if the unit's name is the marker attribute's. -/
theorem Decorator.sourceUnit_eq (decorator : Decorator) (settings : Settings) :
    decorator.sourceUnit settings =
      if decorator.target.unitName settings.unitSuffix = settings.markerUnitName then
        .error (.invalidSymbol decorator.target.display
          ("unit name " ++ settings.markerUnitName ++ " is reserved for the marker attribute"))
      else .ok ⟨decorator.target.unitName settings.unitSuffix, decorator.sourceText⟩ := by
  have hfind : TemplateLibrary.builtIn.find? TemplateLibrary.decoratorKey =
      some decoratorLayout := rfl
  have hrender : TemplateLibrary.builtIn.render TemplateLibrary.decoratorKey decorator.filling =
      .ok decorator.sourceText := by
    rw [TemplateLibrary.render, hfind, Option.bind_some, fillAll_decoratorLayout]
  by_cases hname : decorator.target.unitName settings.unitSuffix = settings.markerUnitName
  · simp only [sourceUnit, hname, if_true]
    rfl
  · simp only [sourceUnit, hname, if_false, hrender]
    rfl

/-- The marker attribute always has a unit. -/
theorem Settings.markerUnit_eq (settings : Settings) :
    settings.markerUnit = .ok ⟨settings.markerUnitName, settings.markerText⟩ := by
  have hfind : TemplateLibrary.builtIn.find? TemplateLibrary.markerKey = some markerLayout := rfl
  have hrender : TemplateLibrary.builtIn.render TemplateLibrary.markerKey settings.markerFilling =
      .ok settings.markerText := by
    rw [TemplateLibrary.render, hfind, Option.bind_some, fillAll_markerLayout]
  rw [Settings.markerUnit, hrender]
  rfl

end Forwarder
