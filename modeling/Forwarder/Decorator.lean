import Forwarder.PassingMode
import Forwarder.Target

/-!
# Decorators

Everything that the generated half of a decorator depends on, as plain values: the target, and for
every interface it declares the names to write and the methods to forward. Two equal decorators
have the same generated source, which is what makes cached output reusable.
-/

namespace Forwarder

/-- A parameter of a forwarded method. -/
structure ForwardedParameter where
  /-- Its modifiers and its type, as they are written. -/
  expression : String
  /-- Its name. -/
  name : String
  /-- How its argument is passed. -/
  passing : PassingMode
  deriving DecidableEq, Repr

/-- The parameter as it is declared. -/
def ForwardedParameter.declaration (parameter : ForwardedParameter) : String :=
  if parameter.expression = "" then parameter.name
  else parameter.expression ++ " " ++ parameter.name

/-- The parameter as it is handed on at a call. -/
def ForwardedParameter.argument (parameter : ForwardedParameter) : String :=
  match parameter.passing.keyword? with
  | some keyword => keyword ++ " " ++ parameter.name
  | none => parameter.name

/-- An interface method to forward. -/
structure ForwardedMethod where
  /-- Its name, with its type parameters if it has any. -/
  name : String
  /-- Its return type, as it is written. -/
  returnType : String
  /-- Whether its result can be awaited. -/
  isAwaited : Bool
  /-- Its parameters. -/
  parameters : List ForwardedParameter
  deriving DecidableEq, Repr

/-- The parameters as they are declared. -/
def ForwardedMethod.parameterText (method : ForwardedMethod) : String :=
  ", ".intercalate (method.parameters.map (·.declaration))

/-- The arguments as they are handed on. -/
def ForwardedMethod.argumentText (method : ForwardedMethod) : String :=
  ", ".intercalate (method.parameters.map (·.argument))

/-- An interface that a target declares. -/
structure DecoratedInterface where
  /-- Its namespace with the global alias; absent for the global namespace. -/
  scope : Option String
  /-- Its fully qualified display. -/
  fullName : String
  /-- Its minimally qualified display. -/
  minimalName : String
  /-- The name of the accessor for the inner instance. -/
  accessor : String
  /-- The methods to forward, in the order of their declaration. -/
  methods : List ForwardedMethod
  deriving DecidableEq, Repr

/-- A decorator: the unit of generation and of comparison with the cache. -/
structure Decorator where
  /-- The type that output is generated for. -/
  target : Target
  /-- Its interfaces, in the order of their declaration. -/
  interfaces : List DecoratedInterface
  deriving DecidableEq, Repr

/-- How many methods are forwarded in all. -/
def Decorator.methodCount (decorator : Decorator) : Nat :=
  (decorator.interfaces.flatMap (·.methods)).length

end Forwarder
