/-!
# Hooks

The four methods through which every forwarded call goes: one each for calls with and without a
result, and both once more for calls that can be awaited. Generated source declares them without a
body, and the decorator has to supply the bodies.
-/

namespace Forwarder

/-- One of the four hooks. -/
inductive Hook where
  /-- For calls without a result. -/
  | sync
  /-- For calls with a result. -/
  | syncGeneric
  /-- For awaited calls without a result. -/
  | async
  /-- For awaited calls with a result. -/
  | asyncGeneric
  deriving DecidableEq, Repr

namespace Hook

/-- All hooks, in the order in which they are declared. -/
def all : List Hook := [.sync, .syncGeneric, .async, .asyncGeneric]

/-- The name of the hook that calls go through. -/
def nameFor (awaited : Bool) : String := if awaited then "DecorateAsync" else "Decorate"

/-- Whether a hook is for awaited calls. -/
def isAsync : Hook → Bool
  | .sync | .syncGeneric => false
  | .async | .asyncGeneric => true

/-- The method name of a hook. -/
def methodName (hook : Hook) : String := nameFor hook.isAsync

/-- The number of type parameters of a hook. -/
def arity : Hook → Nat
  | .sync | .async => 0
  | .syncGeneric | .asyncGeneric => 1

/-- The declaration of a hook, without a body, as generated source writes it. -/
def declaration : Hook → String
  | .sync => "private partial void Decorate(global::System.Action doInner);"
  | .syncGeneric => "private partial T Decorate<T>(global::System.Func<T> doInner);"
  | .async => "private partial global::System.Threading.Tasks.Task DecorateAsync(" ++
      "global::System.Func<global::System.Threading.Tasks.Task> doInner);"
  | .asyncGeneric => "private partial global::System.Threading.Tasks.Task<T> DecorateAsync<T>(" ++
      "global::System.Func<global::System.Threading.Tasks.Task<T>> doInner);"

/-- The signature of a hook, as messages give it. -/
def signature : Hook → String
  | .sync => "void Decorate(Action doInner)"
  | .syncGeneric => "T Decorate<T>(Func<T> doInner)"
  | .async => "Task DecorateAsync(Func<Task> doInner)"
  | .asyncGeneric => "Task<T> DecorateAsync<T>(Func<Task<T>> doInner)"

end Hook

end Forwarder
