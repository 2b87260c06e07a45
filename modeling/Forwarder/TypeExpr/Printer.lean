import Forwarder.TypeExpr.Framework

/-!
# Types as source text

A reference is written in one of three styles, which differ in how far names are qualified.
Predefined types go by their keywords and nullable values by a question mark in every style.
-/

namespace Forwarder

open Text

/-- How far names are qualified. -/
inductive Qualification where
  /-- From the global alias on, as generated source needs it. -/
  | full
  /-- By enclosing types only, as accessors are named. -/
  | minimal
  /-- By namespace and enclosing types, as messages have it. -/
  | dotted
  deriving DecidableEq, Repr

namespace TypeExpr

/-- The keywords of the predefined types, by their names in the namespace of basic types. -/
def keywords : List (String × String) := [
  ("Boolean", "bool"), ("Byte", "byte"), ("SByte", "sbyte"), ("Char", "char"),
  ("Decimal", "decimal"), ("Double", "double"), ("Single", "float"), ("Int16", "short"),
  ("UInt16", "ushort"), ("Int32", "int"), ("UInt32", "uint"), ("Int64", "long"),
  ("UInt64", "ulong"), ("Object", "object"), ("String", "string")]

/-- The keyword of a definition, if it is predefined. -/
def keyword? (openType : OpenType) : Option String :=
  if openType.arity = 0 && openType.head.scope = some Framework.systemScope
      && openType.head.containers.isEmpty then
    keywords.lookup openType.head.name
  else none

/-- The definition of nullable values. -/
def nullableValue : OpenType := .ofFramework Framework.systemScope "Nullable" 1

/-- What a style writes before the enclosing types of a name. -/
def qualifier (style : Qualification) (scope : Option String) : String :=
  match style, scope with
  | .full, some scope => globalAlias ++ scope ++ "."
  | .full, none => globalAlias
  | .dotted, some scope => scope ++ "."
  | _, _ => ""

/-- The name of a type in a style, without arguments. -/
def headText (style : Qualification) (head : TypeName) : String :=
  qualifier style head.scope ++ String.join (head.containers.map (· ++ ".")) ++ head.name

/-- The rank specifier of an array; a rank of zero is written like one. -/
def rankText (rank : UInt64) : String :=
  "[" ++ String.ofList (List.replicate (rank.toNat - 1) ',') ++ "]"

/-- The text of a named type, from the texts of its arguments. -/
def namedText (style : Qualification) (head : TypeName) (arguments : List String) : String :=
  match keyword? ⟨head, arguments.length⟩ with
  | some keyword => keyword
  | none =>
    if (⟨head, arguments.length⟩ : OpenType) = nullableValue then
      String.join arguments ++ "?"
    else if arguments.isEmpty then headText style head
    else headText style head ++ "<" ++ ", ".intercalate arguments ++ ">"

mutual

/-- The text of a reference in a style. -/
def display (style : Qualification) : TypeExpr → String
  | .void => "void"
  | .named head arguments => namedText style head (displayAll style arguments)
  | .parameter name => name
  | .array element rank => element.display style ++ rankText rank
  | .pointer pointee => pointee.display style ++ "*"
  | .nullable underlying => underlying.display style ++ "?"
  | .unresolved name => name

/-- The texts of several references in a style. -/
def displayAll (style : Qualification) : List TypeExpr → List String
  | [] => []
  | argument :: rest => argument.display style :: displayAll style rest

end

/-- Several references are written one by one. -/
theorem displayAll_eq_map (style : Qualification) (arguments : List TypeExpr) :
    displayAll style arguments = arguments.map (display style) := by
  induction arguments with
  | nil => rfl
  | cons argument rest ih => simp [displayAll, ih]

end TypeExpr

/-- The text of a named type in a style. -/
def ConstructedType.display (style : Qualification) (type : ConstructedType) : String :=
  type.toExpr.display style

end Forwarder
