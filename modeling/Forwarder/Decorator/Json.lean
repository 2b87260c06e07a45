import Forwarder.Decorator
import Forwarder.Json.Decode

/-!
# Decorators as JSON

How decorators are read and written. Namespaces are taken as they stand.
-/

namespace Forwarder

open Json

/-- Reads a target. -/
def Target.reader : Reader Target := fun access value => do
  match ← readSlots ["namespace", "name"] access value with
  | (inside, [scope, name]) =>
    let scope ← scope.optional readString inside
    let name ← name.required readString inside
    return { scope, name }
  | _ => none

/-- The JSON form of a target. -/
def Target.toJson (target : Target) : Json :=
  .object [("namespace", optionalString target.scope), ("name", .string target.name)]

/-- The passing modes of forwarded parameters, by name. -/
def forwardedPassing : List (String × PassingMode) :=
  [("value", .value), ("ref", .reference), ("out", .output), ("in", .input)]

/-- The name of a passing mode at a forwarded parameter. -/
def PassingMode.forwardedName : PassingMode → String
  | .value => "value"
  | .reference => "ref"
  | .output => "out"
  | .input => "in"

/-- Reads a forwarded parameter. -/
def ForwardedParameter.reader : Reader ForwardedParameter := fun access value => do
  match ← readSlots ["expression", "name", "passing"] access value with
  | (inside, [expression, name, passing]) =>
    let expression ← expression.required readString inside
    let name ← name.required readString inside
    let passing ← passing.withDefault (readChoice forwardedPassing) .value inside
    return { expression, name, passing }
  | _ => none

/-- The JSON form of a forwarded parameter. -/
def ForwardedParameter.toJson (parameter : ForwardedParameter) : Json :=
  .object [("expression", .string parameter.expression), ("name", .string parameter.name),
    ("passing", .string parameter.passing.forwardedName)]

/-- The fields of a forwarded method. -/
def ForwardedMethod.fieldNames : List String :=
  ["name", "return_type", "is_awaitable", "parameters"]

/-- Reads a forwarded method. -/
def ForwardedMethod.reader : Reader ForwardedMethod := fun access value => do
  match ← readSlots fieldNames access value with
  | (inside, [name, returnType, isAwaited, parameters]) =>
    let name ← name.required readString inside
    let returnType ← returnType.required readString inside
    let isAwaited ← isAwaited.required readBool inside
    let parameters ← parameters.required (readList ForwardedParameter.reader) inside
    return { name, returnType, isAwaited, parameters }
  | _ => none

/-- The JSON form of a forwarded method. -/
def ForwardedMethod.toJson (method : ForwardedMethod) : Json :=
  .object [("name", .string method.name), ("return_type", .string method.returnType),
    ("is_awaitable", .bool method.isAwaited),
    ("parameters", .array (method.parameters.map (·.toJson)))]

/-- The fields of a decorated interface. -/
def DecoratedInterface.fieldNames : List String :=
  ["namespace", "fully_qualified_name", "minimally_qualified_name", "accessor_name", "members"]

/-- Reads a decorated interface. -/
def DecoratedInterface.reader : Reader DecoratedInterface := fun access value => do
  match ← readSlots fieldNames access value with
  | (inside, [scope, fullName, minimalName, accessor, methods]) =>
    let scope ← scope.optional readString inside
    let fullName ← fullName.required readString inside
    let minimalName ← minimalName.required readString inside
    let accessor ← accessor.required readString inside
    let methods ← methods.required (readList ForwardedMethod.reader) inside
    return { scope, fullName, minimalName, accessor, methods }
  | _ => none

/-- The JSON form of a decorated interface. -/
def DecoratedInterface.toJson (interface : DecoratedInterface) : Json :=
  .object [("namespace", optionalString interface.scope),
    ("fully_qualified_name", .string interface.fullName),
    ("minimally_qualified_name", .string interface.minimalName),
    ("accessor_name", .string interface.accessor),
    ("members", .array (interface.methods.map (·.toJson)))]

/-- Reads a decorator. -/
def Decorator.reader : Reader Decorator := fun access value => do
  match ← readSlots ["target", "interfaces"] access value with
  | (inside, [target, interfaces]) =>
    let target ← target.required Target.reader inside
    let interfaces ← interfaces.required (readList DecoratedInterface.reader) inside
    return { target, interfaces }
  | _ => none

/-- The JSON form of a decorator. -/
def Decorator.toJson (decorator : Decorator) : Json :=
  .object [("target", decorator.target.toJson),
    ("interfaces", .array (decorator.interfaces.map (·.toJson)))]

end Forwarder
