import Forwarder.Accessor
import Forwarder.Cancellation
import Forwarder.Decorator
import Forwarder.Settings
import Forwarder.Snapshot
import Forwarder.TypeExpr.Printer

/-!
# Derivation of decorators

From a candidate type in a snapshot to the decorator that its generated half depends on. There is
none, without that being an error, when the type did not resolve, declares no interfaces, or
declares one that the snapshot does not resolve. The token is polled before every interface and
before every member.
-/

namespace Forwarder

open Text

/-- A namespace with its global alias; absent for the global namespace. -/
def aliasedScope (scope : Option String) : Option String :=
  (scope.filter (· ≠ "")).map (globalAlias ++ ·)

/-- The identity of a candidate type. -/
def TypeDecl.target (type : TypeDecl) : Target := ⟨aliasedScope type.scope, type.name⟩

/-- The displays that the accessor for a declared interface is named after. -/
def displaysOf (reference : TypeExpr) : InterfaceDisplays :=
  ⟨reference.display .minimal, reference.display .full⟩

/-- The accessor names for the interfaces that a type declares. They need no resolution. -/
def TypeDecl.accessors (type : TypeDecl) (settings : Settings) : AccessorChoice :=
  Accessor.resolve settings.accessorStem (type.interfaces.map displaysOf)

/-! ## Methods -/

/-- A parameter as it will be written. -/
def ForwardedParameter.ofDecl (parameter : ParameterDecl) : ForwardedParameter where
  expression := (if parameter.isVariadic then "params " else "") ++
    (parameter.passing.keyword?.elim "" (· ++ " ")) ++ parameter.type.display .full
  name := parameter.name
  passing := parameter.passing

/-- The name of a method with its type parameters. -/
def MethodDecl.genericName (method : MethodDecl) : String :=
  if method.typeParameters.isEmpty then method.name
  else method.name ++ "<" ++ ", ".intercalate method.typeParameters ++ ">"

/-- A method as it will be written. -/
def ForwardedMethod.ofDecl (method : MethodDecl) : ForwardedMethod where
  name := method.genericName
  returnType := method.returnType.display .full
  isAwaited := method.returnType.canBeAwaited
  parameters := method.parameters.map .ofDecl

/-- The method that a member forwards, if it does. -/
def MemberDecl.forwarded? : MemberDecl → Option ForwardedMethod
  | .method declared => some (.ofDecl declared)
  | _ => none

/-! ## Walking a type -/

/-- Describes the methods among the members of an interface. -/
def forwardMembers : List MemberDecl → Watched (List ForwardedMethod)
  | [] => return []
  | member :: rest => do
    Watched.check "extract member"
    let methods ← forwardMembers rest
    return (member.forwarded?).toList ++ methods

/-- Describes interfaces, each given with the name of its accessor, unless one of them does not
resolve. -/
def forwardInterfaces (snapshot : Snapshot) :
    List (TypeExpr × String) → Watched (Option (List DecoratedInterface))
  | [] => return some []
  | (reference, accessor) :: rest => do
    Watched.check "extract interface"
    match snapshot.resolve? reference with
    | none => return none
    | some resolved =>
      let methods ← forwardMembers resolved.members
      let interface : DecoratedInterface :=
        { scope := aliasedScope resolved.reference.head.scope
          fullName := reference.display .full
          minimalName := reference.display .minimal
          accessor, methods }
      return (← forwardInterfaces snapshot rest).map (interface :: ·)

/-- Describes a candidate type as a decorator, if its preconditions are met. -/
def Decorator.derive (snapshot : Snapshot) (settings : Settings) (type : TypeDecl) :
    Watched (Option Decorator) := do
  if type.kind = .unresolved || type.interfaces.isEmpty then return none
  else
    let interfaces ← forwardInterfaces snapshot
      (type.interfaces.zip (type.accessors settings).names)
    return interfaces.map fun interfaces => { target := type.target, interfaces }

/-- The decorator that a candidate type is described as when nobody requests cancellation. -/
def Decorator.derive? (snapshot : Snapshot) (settings : Settings) (type : TypeDecl) :
    Option Decorator :=
  match (derive snapshot settings type).start .fresh with
  | (.ok decorator, _) => decorator
  | (.error _, _) => none

end Forwarder
