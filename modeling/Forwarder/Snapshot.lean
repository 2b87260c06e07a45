import Forwarder.Declaration
import Forwarder.Failure

/-!
# Snapshots

A snapshot is what the host knows at one moment: the candidate types and the declarations of the
interfaces that they refer to. Resolving a reference to an interface finds the declaration of its
definition and puts the type arguments into every member.
-/

namespace Forwarder

/-- What the host knows at one moment. -/
structure Snapshot where
  /-- The candidate types. -/
  types : List TypeDecl
  /-- The interface declarations. -/
  interfaces : List InterfaceDecl
  deriving DecidableEq, Repr

/-- A reference to an interface with the members that it has as constructed. -/
structure BoundInterface where
  /-- The interface type that was referred to. -/
  reference : ConstructedType
  /-- Its members, type arguments put in. -/
  members : List MemberDecl
  deriving DecidableEq, Repr

namespace Snapshot

/-- The types that have an attribute as their marker, in the order of their declaration. -/
def marked (snapshot : Snapshot) (marker : String) : List TypeDecl :=
  snapshot.types.filter (·.isMarkedWith marker)

/-- The declaration that a reference to a named type leads to. -/
def declarationOf? (snapshot : Snapshot) (reference : ConstructedType) : Option InterfaceDecl :=
  snapshot.interfaces.find? (·.openType = reference.openType)

/-- Resolves a reference to an interface, unless it is not to a named type, has unresolved parts,
or leads to no declaration. -/
def resolve? (snapshot : Snapshot) (reference : TypeExpr) : Option BoundInterface :=
  if reference.hasUnresolved then none
  else do
    let type ← reference.asConstructed?
    let declaration ← snapshot.declarationOf? type
    let assignment := Assignment.ofArguments declaration.typeParameters type.arguments
    return { reference := type, members := declaration.members.map (·.subst assignment) }

/-! ## Validation -/

/-- Checks that candidate types have names. -/
def validateTypes : List TypeDecl → Except Failure Unit
  | [] => .ok ()
  | type :: rest =>
    if type.name = "" then .error (.invalidSymbol type.display "type name is empty")
    else validateTypes rest

/-- Checks that interfaces have names and that no definition is declared twice. `earlier` holds the
interfaces before the first one, the nearest of them at its head. -/
def validateInterfaces (earlier : List InterfaceDecl) : List InterfaceDecl → Except Failure Unit
  | [] => .ok ()
  | interface :: rest =>
    if interface.head.name = "" then
      .error (.invalidSymbol ("interface #" ++ toString earlier.length) "interface name is empty")
    else if earlier.any (·.openType = interface.openType) then
      .error (.invalidSymbol interface.head.name "interface is declared more than once")
    else validateInterfaces (interface :: earlier) rest

/-- Checks that a snapshot is consistent. -/
def validate (snapshot : Snapshot) : Except Failure Unit := do
  validateTypes snapshot.types
  validateInterfaces [] snapshot.interfaces

end Snapshot

end Forwarder
