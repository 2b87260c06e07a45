import Forwarder.Text.GlobalAlias

/-!
# Type expressions

A reference to a type as the host has resolved it. A named type is split into its head, which says
what is constructed, and its arguments: replacing type parameters only ever changes arguments, so
heads and the number of arguments, which together are the definition of the type, stay what they
are.
-/

namespace Forwarder

open Text

/-- What a named type is called: namespace, enclosing types and simple name. -/
structure TypeName where
  /-- The dotted namespace; absent for the global namespace. -/
  scope : Option String
  /-- The enclosing types, the outermost first. -/
  containers : List String
  /-- The simple name. -/
  name : String
  deriving DecidableEq, Repr

/-- A reference to a type. -/
inductive TypeExpr where
  /-- No result. -/
  | void
  /-- A named type, constructed if it has arguments. -/
  | named (head : TypeName) (arguments : List TypeExpr)
  /-- A type parameter of an interface or a method. -/
  | parameter (name : String)
  /-- An array of a number of dimensions. -/
  | array (element : TypeExpr) (rank : UInt64)
  /-- A pointer. -/
  | pointer (pointee : TypeExpr)
  /-- A nullable annotation. -/
  | nullable (underlying : TypeExpr)
  /-- A type that the host could not resolve. -/
  | unresolved (name : String)
  deriving Repr, Inhabited

/-- A named type, constructed if it has arguments, apart from other references. -/
structure ConstructedType where
  /-- What it is called. -/
  head : TypeName
  /-- Its type arguments. -/
  arguments : List TypeExpr
  deriving Repr

/-- The definition that a named type is constructed from. -/
structure OpenType where
  /-- What it is called. -/
  head : TypeName
  /-- The number of its type parameters. -/
  arity : Nat
  deriving DecidableEq, Repr

/-! ## Equality -/

mutual

/-- Whether two references are the same. -/
def TypeExpr.same : TypeExpr → TypeExpr → Bool
  | .void, .void => true
  | .named head arguments, .named head' arguments' =>
    head = head' && TypeExpr.sameAll arguments arguments'
  | .parameter name, .parameter name' => name = name'
  | .array element rank, .array element' rank' => element.same element' && rank = rank'
  | .pointer pointee, .pointer pointee' => pointee.same pointee'
  | .nullable underlying, .nullable underlying' => underlying.same underlying'
  | .unresolved name, .unresolved name' => name = name'
  | _, _ => false

/-- Whether two lists of references are the same. -/
def TypeExpr.sameAll : List TypeExpr → List TypeExpr → Bool
  | [], [] => true
  | a :: rest, b :: rest' => a.same b && TypeExpr.sameAll rest rest'
  | _, _ => false

end

/-- To prove something of all references, prove it of each kind, for named types from all their
arguments. -/
theorem TypeExpr.induct {P : TypeExpr → Prop} (void : P .void)
    (named : ∀ head arguments, (∀ argument ∈ arguments, P argument) → P (.named head arguments))
    (parameter : ∀ name, P (.parameter name))
    (array : ∀ element rank, P element → P (.array element rank))
    (pointer : ∀ pointee, P pointee → P (.pointer pointee))
    (nullable : ∀ underlying, P underlying → P (.nullable underlying))
    (unresolved : ∀ name, P (.unresolved name)) (type : TypeExpr) : P type :=
  TypeExpr.rec (motive_1 := P) (motive_2 := fun arguments => ∀ argument ∈ arguments, P argument)
    void named parameter array pointer nullable unresolved (by simp)
    (fun _ _ first rest => by simpa using ⟨first, rest⟩) type

/-- Lists of references are the same exactly if they are equal, as far as this holds for the
references in them. -/
theorem TypeExpr.sameAll_iff {as : List TypeExpr}
    (h : ∀ a ∈ as, ∀ b : TypeExpr, a.same b = true ↔ a = b) (bs : List TypeExpr) :
    TypeExpr.sameAll as bs = true ↔ as = bs := by
  induction as generalizing bs with
  | nil => cases bs <;> simp [TypeExpr.sameAll]
  | cons a rest ih =>
    cases bs with
    | nil => simp [TypeExpr.sameAll]
    | cons b rest' =>
      simp [TypeExpr.sameAll, h a (by simp) b, ih (fun a ha => h a (by simp [ha])) rest']

/-- References are the same exactly if they are equal. -/
theorem TypeExpr.same_iff (a b : TypeExpr) : a.same b = true ↔ a = b := by
  induction a using TypeExpr.induct generalizing b with
  | named head arguments ih => cases b <;> simp [TypeExpr.same, TypeExpr.sameAll_iff ih]
  | array element rank ih => cases b <;> simp [TypeExpr.same, ih]
  | pointer pointee ih => cases b <;> simp [TypeExpr.same, ih]
  | nullable underlying ih => cases b <;> simp [TypeExpr.same, ih]
  | _ => cases b <;> simp [TypeExpr.same]

instance : DecidableEq TypeExpr := fun a b => decidable_of_iff _ (TypeExpr.same_iff a b)

deriving instance DecidableEq for ConstructedType

/-! ## Construction -/

/-- A type of a namespace, constructed with arguments. The namespace is normalised. -/
def TypeExpr.construct (scope : Option String) (name : String) (arguments : List TypeExpr) :
    TypeExpr :=
  .named ⟨normalizeScope scope, [], name⟩ arguments

/-- A type of a namespace without arguments. The namespace is normalised. -/
def TypeExpr.plain (scope : Option String) (name : String) : TypeExpr := .construct scope name []

namespace TypeExpr

/-- The named type that a reference is, if it is one. -/
def asConstructed? : TypeExpr → Option ConstructedType
  | .named head arguments => some ⟨head, arguments⟩
  | _ => none

/-- Whether a reference is `void`. -/
def isVoid : TypeExpr → Bool
  | .void => true
  | _ => false

mutual

/-- Whether the host failed to resolve a reference or any part of it. -/
def hasUnresolved : TypeExpr → Bool
  | .unresolved _ => true
  | .void | .parameter _ => false
  | .named _ arguments => anyUnresolved arguments
  | .array element _ => element.hasUnresolved
  | .pointer pointee => pointee.hasUnresolved
  | .nullable underlying => underlying.hasUnresolved

/-- Whether any of several references is unresolved in part. -/
def anyUnresolved : List TypeExpr → Bool
  | [] => false
  | argument :: rest => argument.hasUnresolved || anyUnresolved rest

end

end TypeExpr

/-- A named type as a reference. -/
def ConstructedType.toExpr (type : ConstructedType) : TypeExpr := .named type.head type.arguments

/-- The definition of a named type. -/
def ConstructedType.openType (type : ConstructedType) : OpenType :=
  ⟨type.head, type.arguments.length⟩

/-- Whether a named type is a construction of a definition. -/
def ConstructedType.isConstructionOf (type : ConstructedType) (openType : OpenType) : Bool :=
  type.openType = openType

end Forwarder
