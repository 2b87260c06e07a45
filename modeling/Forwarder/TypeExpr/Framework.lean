import Forwarder.TypeExpr

/-!
# Framework types

The types of the framework that generation knows by name, and the return types whose results can be
awaited. A type is awaitable by its definition and never by its text, so that `Task<int>`
and `Task<string>` are, and a `Task` of some other namespace is not.
-/

namespace Forwarder

namespace Framework

/-- The namespace of basic types. -/
def systemScope : String := "System"

/-- The namespace of tasks. -/
def tasksScope : String := "System.Threading.Tasks"

/-- The namespace of collections. -/
def collectionsScope : String := "System.Collections.Generic"

/-- The 32-bit integer type. -/
def int : TypeExpr := .plain (some systemScope) "Int32"

/-- The string type. -/
def string : TypeExpr := .plain (some systemScope) "String"

/-- The type of truth values. -/
def boolean : TypeExpr := .plain (some systemScope) "Boolean"

/-- The type of all objects. -/
def object : TypeExpr := .plain (some systemScope) "Object"

/-- The type of actions without parameters. -/
def action : TypeExpr := .plain (some systemScope) "Action"

/-- The type of functions without parameters. -/
def func (result : TypeExpr) : TypeExpr := .construct (some systemScope) "Func" [result]

/-- The type of tasks without a result. -/
def task : TypeExpr := .plain (some tasksScope) "Task"

/-- The type of tasks with a result. -/
def genericTask (result : TypeExpr) : TypeExpr := .construct (some tasksScope) "Task" [result]

/-- The type of value tasks without a result. -/
def valueTask : TypeExpr := .plain (some tasksScope) "ValueTask"

/-- The type of value tasks with a result. -/
def genericValueTask (result : TypeExpr) : TypeExpr :=
  .construct (some tasksScope) "ValueTask" [result]

/-- The type of asynchronous streams. -/
def asyncStream (item : TypeExpr) : TypeExpr :=
  .construct (some collectionsScope) "IAsyncEnumerable" [item]

end Framework

/-- The definition of a type of a framework namespace that is not nested in another type. -/
def OpenType.ofFramework (scope name : String) (arity : Nat) : OpenType :=
  ⟨⟨some scope, [], name⟩, arity⟩

/-- The shapes of return types whose results can be awaited. -/
inductive Awaitable where
  /-- A task without a result. -/
  | task
  /-- A task with a result. -/
  | genericTask
  /-- A value task without a result. -/
  | valueTask
  /-- A value task with a result. -/
  | genericValueTask
  /-- An asynchronous stream. -/
  | asyncStream
  deriving DecidableEq, Repr

namespace Awaitable

/-- All shapes. -/
def all : List Awaitable := [.task, .genericTask, .valueTask, .genericValueTask, .asyncStream]

/-- The definition of a shape. -/
def openType : Awaitable → OpenType
  | .task => .ofFramework Framework.tasksScope "Task" 0
  | .genericTask => .ofFramework Framework.tasksScope "Task" 1
  | .valueTask => .ofFramework Framework.tasksScope "ValueTask" 0
  | .genericValueTask => .ofFramework Framework.tasksScope "ValueTask" 1
  | .asyncStream => .ofFramework Framework.collectionsScope "IAsyncEnumerable" 1

/-- The shape of a return type, if it has one. A nullable annotation makes no difference. -/
def ofType? : TypeExpr → Option Awaitable
  | .nullable underlying => ofType? underlying
  | .named head arguments => all.find? fun shape =>
    ConstructedType.isConstructionOf ⟨head, arguments⟩ shape.openType
  | _ => none

end Awaitable

/-- Whether results of a type can be awaited. -/
def TypeExpr.canBeAwaited (type : TypeExpr) : Bool := (Awaitable.ofType? type).isSome

end Forwarder
