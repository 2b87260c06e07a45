import Forwarder.Decorator
import Forwarder.Hook
import Forwarder.Settings
import Forwarder.Source
import Forwarder.Template

/-!
# Generation

The source of a decorator's generated half, and that of the marker attribute, made by filling the
two built-in templates. The generated half declares the hooks and, for every interface, its
accessor, and implements every method by a call on the inner instance that goes through a hook.

The unit of the marker attribute has a name of its own; a decorator whose unit would have the same
name cannot be generated.
-/

namespace Forwarder

/-! ## Built-in templates -/

/-- The template of one forwarded method. -/
def methodLayout : Template := [
  .text "\n    ", .field "return_type", .text " ", .field "interface_name", .text ".",
  .field "name", .text "(", .field "parameter_list", .text ") => ", .field "hook",
  .text "(() => ", .field "accessor_name", .text "().", .field "name", .text "(",
  .field "argument_list", .text "));"]

/-- The template of one interface. -/
def interfaceLayout : Template := [
  .text "\n\n    private partial ", .field "fully_qualified_name", .text " ",
  .field "accessor_name", .text "();", .each "members" methodLayout]

/-- The template of a decorator. -/
def decoratorLayout : Template := [
  .text "// <auto-generated/>",
  .when "namespace" [.text "\nnamespace ", .field "namespace", .text ";"],
  .text "\n\npartial class ", .field "class_name", .text "\n\x7b",
  .each "hooks" [.text "\n    ", .this],
  .each "interfaces" interfaceLayout,
  .text "\n\x7d\n"]

/-- The template of the marker attribute. -/
def markerLayout : Template := [
  .text "// <auto-generated/>\nnamespace ", .field "namespace", .text ("\n\x7b\n" ++
    "    [global::System.AttributeUsage(global::System.AttributeTargets.Class, " ++
    "AllowMultiple = false, Inherited = false)]\n    internal sealed class "),
  .field "name", .text " : global::System.Attribute\n    \x7b\n    \x7d\n\x7d\n"]

namespace TemplateLibrary

/-- The name of the template of decorators. -/
def decoratorKey : String := "decorator"

/-- The name of the template of the marker attribute. -/
def markerKey : String := "marker_attribute"

/-- The templates that are always there. -/
def builtIn : TemplateLibrary :=
  ⟨[(decoratorKey, decoratorLayout), (markerKey, markerLayout)]⟩

end TemplateLibrary

/-! ## Fillings -/

/-- What the template of a method is filled from. -/
def ForwardedMethod.filling (interface : DecoratedInterface) (method : ForwardedMethod) : Json :=
  .object [("name", .string method.name), ("return_type", .string method.returnType),
    ("interface_name", .string interface.fullName), ("accessor_name", .string interface.accessor),
    ("hook", .string (Hook.nameFor method.isAwaited)),
    ("parameter_list", .string method.parameterText),
    ("argument_list", .string method.argumentText)]

/-- What the template of an interface is filled from. -/
def DecoratedInterface.filling (interface : DecoratedInterface) : Json :=
  .object [("fully_qualified_name", .string interface.fullName),
    ("accessor_name", .string interface.accessor),
    ("members", .array (interface.methods.map (·.filling interface)))]

/-- What the template of a decorator is filled from. -/
def Decorator.filling (decorator : Decorator) : Json :=
  .object [("namespace", Json.optionalString decorator.target.declaredScope),
    ("class_name", .string decorator.target.name),
    ("hooks", Json.strings (Hook.all.map (·.declaration))),
    ("interfaces", .array (decorator.interfaces.map (·.filling)))]

/-- What the template of the marker attribute is filled from. -/
def Settings.markerFilling (settings : Settings) : Json :=
  .object [("namespace", .string settings.markerScope), ("name", .string settings.markerName)]

/-! ## Units -/

/-- The source unit of a decorator. -/
def Decorator.sourceUnit (decorator : Decorator) (settings : Settings) :
    Except Failure SourceUnit := do
  let name := decorator.target.unitName settings.unitSuffix
  if name = settings.markerUnitName then
    throw (.invalidSymbol decorator.target.display
      ("unit name " ++ name ++ " is reserved for the marker attribute"))
  let text ← TemplateLibrary.builtIn.render TemplateLibrary.decoratorKey decorator.filling
  return { name, text }

/-- The source unit of the marker attribute. -/
def Settings.markerUnit (settings : Settings) : Except Failure SourceUnit := do
  let text ← TemplateLibrary.builtIn.render TemplateLibrary.markerKey settings.markerFilling
  return { name := settings.markerUnitName, text }

end Forwarder
