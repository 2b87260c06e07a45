import Forwarder.Snapshot

/-!
# Scopes of an interface

The namespaces that an interface refers to: its own, and those of the named types at any depth in
the signatures of its members. The global namespace is never among them. They are given as a
sorted list without repetitions.
-/

namespace Forwarder

/-- Puts a text into a sorted list, unless it is there already. -/
def insertSorted (text : String) : List String → List String
  | [] => [text]
  | other :: rest =>
    if text < other then text :: other :: rest
    else if text = other then other :: rest
    else other :: insertSorted text rest

/-- The texts of a list, sorted and without repetitions. -/
def sortedSet (texts : List String) : List String := texts.foldr insertSorted []

/-- A namespace as a list: nothing for the global one. -/
def scopeNames (scope : Option String) : List String := (scope.filter (· ≠ "")).toList

mutual

/-- The namespaces of the named types in a reference, in the order in which they occur. -/
def TypeExpr.scopes : TypeExpr → List String
  | .named head arguments => scopeNames head.scope ++ TypeExpr.allScopes arguments
  | .array element _ => element.scopes
  | .pointer pointee => pointee.scopes
  | .nullable underlying => underlying.scopes
  | .void | .parameter _ | .unresolved _ => []

/-- The namespaces of the named types in several references. -/
def TypeExpr.allScopes : List TypeExpr → List String
  | [] => []
  | argument :: rest => argument.scopes ++ TypeExpr.allScopes rest

end

/-- The types in the signature of a member. -/
def MemberDecl.signatureTypes : MemberDecl → List TypeExpr
  | .method declared => declared.returnType :: declared.parameters.map (·.type)
  | .property _ type => [type]
  | .event _ type => [type]

/-- The namespaces in the signatures of members. -/
def memberScopes (members : List MemberDecl) : List String :=
  members.flatMap fun member => member.signatureTypes.flatMap (·.scopes)

/-- The namespaces that an interface refers to as declared. -/
def InterfaceDecl.scopeSet (interface : InterfaceDecl) : List String :=
  sortedSet (scopeNames interface.head.scope ++ memberScopes interface.members)

/-- The namespaces that an interface refers to as constructed, those of its type arguments
included. -/
def BoundInterface.scopeSet (interface : BoundInterface) : List String :=
  sortedSet (interface.reference.toExpr.scopes ++ memberScopes interface.members)

end Forwarder
