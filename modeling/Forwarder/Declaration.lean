import Forwarder.PassingMode
import Forwarder.TypeExpr.Substitution

/-!
# Declarations

What the host reports about interfaces and candidate types: methods with their parameters, the
members of interfaces, and the types that may be marked for generation, each with the place of its
declaration.
-/

namespace Forwarder

open Text

/-- A place in a source file. -/
structure Location where
  /-- The file, as the host names it. -/
  file : String
  /-- The line, counted from one. -/
  line : UInt32
  /-- The column, counted from one. -/
  column : UInt32
  deriving DecidableEq, Repr

/-- The place of a declaration that the host gives no place for. -/
def Location.unknown : Location := ⟨"", 0, 0⟩

/-- The text of a place. -/
def Location.display (location : Location) : String :=
  location.file ++ ":" ++ toString location.line.toNat ++ ":" ++ toString location.column.toNat

/-- Whether one place comes before another, by file, line and column. -/
def Location.Before (a b : Location) : Prop :=
  a.file < b.file ∨ a.file = b.file ∧ (a.line < b.line ∨ a.line = b.line ∧ a.column < b.column)

instance : DecidableRel Location.Before := fun a b => by
  unfold Location.Before
  infer_instance

/-- A parameter of a method. -/
structure ParameterDecl where
  /-- Its name. -/
  name : String
  /-- Its type. -/
  type : TypeExpr
  /-- How it takes its argument. -/
  passing : PassingMode
  /-- Whether it takes any number of arguments as an array. -/
  isVariadic : Bool
  deriving DecidableEq, Repr

/-- A method of an interface or of a candidate type. -/
structure MethodDecl where
  /-- Its name. -/
  name : String
  /-- Its type parameters. -/
  typeParameters : List String
  /-- Its parameters. -/
  parameters : List ParameterDecl
  /-- Its return type. -/
  returnType : TypeExpr
  /-- For a partial method of a candidate type: whether some part of it has a body. -/
  implemented : Bool
  deriving DecidableEq, Repr

/-- A member of an interface. -/
inductive MemberDecl where
  /-- A method, the only kind of member that is forwarded. -/
  | method (method : MethodDecl)
  /-- A property. -/
  | property (name : String) (type : TypeExpr)
  /-- An event. -/
  | event (name : String) (type : TypeExpr)
  deriving DecidableEq, Repr

/-- The name of a member. -/
def MemberDecl.name : MemberDecl → String
  | .method declared => declared.name
  | .property name _ => name
  | .event name _ => name

/-- The kind of a member, as messages have it. -/
def MemberDecl.kind : MemberDecl → String
  | .method _ => "method"
  | .property .. => "property"
  | .event .. => "event"

/-- An interface. -/
structure InterfaceDecl where
  /-- What it is called. -/
  head : TypeName
  /-- Its type parameters. -/
  typeParameters : List String
  /-- Its members, in the order of their declaration. -/
  members : List MemberDecl
  deriving DecidableEq, Repr

/-- The definition that an interface declares. -/
def InterfaceDecl.openType (interface : InterfaceDecl) : OpenType :=
  ⟨interface.head, interface.typeParameters.length⟩

/-- What a candidate type was declared as. -/
inductive TypeForm where
  /-- A class. -/
  | reference
  /-- A struct. -/
  | value
  /-- Something that the host could not resolve. -/
  | unresolved
  deriving DecidableEq, Repr

/-- A candidate type. -/
structure TypeDecl where
  /-- Its dotted namespace; absent for the global namespace. -/
  scope : Option String
  /-- Its simple name. -/
  name : String
  /-- What it was declared as. -/
  kind : TypeForm
  /-- The full names of its attributes. -/
  attributes : List String
  /-- The interfaces it declares itself, in the order of their declaration. -/
  interfaces : List TypeExpr
  /-- The methods it declares itself. -/
  methods : List MethodDecl
  /-- Where it is declared. -/
  location : Location
  deriving DecidableEq, Repr

/-- Whether a type has an attribute, whichever way the global alias is written. -/
def TypeDecl.isMarkedWith (type : TypeDecl) (name : String) : Bool :=
  type.attributes.any (stripGlobal · = stripGlobal name)

/-- The dotted name of a type. -/
def TypeDecl.display (type : TypeDecl) : String :=
  match type.scope with
  | some scope => scope ++ "." ++ type.name
  | none => type.name

/-! ## Construction -/

/-- A method with a return type and nothing else yet. -/
def MethodDecl.returning (name : String) (returnType : TypeExpr) : MethodDecl where
  name := name
  typeParameters := []
  parameters := []
  returnType := returnType
  implemented := false

/-- An interface of a namespace, which is normalised. -/
def InterfaceDecl.inScope (scope : Option String) (name : String) (typeParameters : List String)
    (members : List MemberDecl) : InterfaceDecl where
  head := ⟨normalizeScope scope, [], name⟩
  typeParameters := typeParameters
  members := members

/-- A class of a namespace, which is normalised, at an unknown place and with nothing else yet. -/
def TypeDecl.ofClass (scope : Option String) (name : String) : TypeDecl where
  scope := normalizeScope scope
  name := name
  kind := .reference
  attributes := []
  interfaces := []
  methods := []
  location := .unknown

/-! ## Replacing type parameters -/

/-- Replaces type parameters in a method. Its own type parameters shadow those of the interface. -/
def MethodDecl.subst (assignment : Assignment) (method : MethodDecl) : MethodDecl :=
  let inner := assignment.without method.typeParameters
  { method with
    parameters := method.parameters.map fun parameter =>
      { parameter with type := parameter.type.subst inner }
    returnType := method.returnType.subst inner }

/-- Replaces type parameters in a member. -/
def MemberDecl.subst (assignment : Assignment) : MemberDecl → MemberDecl
  | .method declared => .method (declared.subst assignment)
  | .property name type => .property name (type.subst assignment)
  | .event name type => .event name (type.subst assignment)

end Forwarder
