import Forwarder.Declaration
import Forwarder.Hook
import Forwarder.TypeExpr.Framework

/-!
# Signatures

Whether a declared method is the implemented form of a partial method that generated source
declares. Types are compared as the host resolved them and never by their text; the type parameter
of a generic hook is the method's own first one, whatever it is called.
-/

namespace Forwarder

/-- The return type and the parameter type of a hook, given the type that its type parameter stands
for. -/
def Hook.types (result : TypeExpr) : Hook → TypeExpr × TypeExpr
  | .sync => (.void, Framework.action)
  | .syncGeneric => (result, Framework.func result)
  | .async => (Framework.task, Framework.func Framework.task)
  | .asyncGeneric => (Framework.genericTask result, Framework.func (Framework.genericTask result))

/-- Whether a method implements a hook. -/
def MethodDecl.suppliesHook (method : MethodDecl) (hook : Hook) : Bool :=
  method.implemented && method.name = hook.methodName &&
    method.typeParameters.length = hook.arity &&
    match method.parameters with
    | [parameter] =>
      (method.returnType, parameter.type) = hook.types (.parameter (method.typeParameters.headD ""))
    | _ => false

/-- Whether a method implements the accessor of a name for an interface. -/
def MethodDecl.suppliesAccessor (method : MethodDecl) (interface : TypeExpr) (name : String) :
    Bool :=
  method.implemented && method.name = name && method.typeParameters.isEmpty &&
    method.parameters.isEmpty && method.returnType = interface

end Forwarder
