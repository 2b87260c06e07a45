import Forwarder.TypeExpr

/-!
# Replacing type parameters

An assignment gives types to some type parameters, by their names. Applying it to a reference
replaces those parameters at every depth and leaves everything else alone.
-/

namespace Forwarder

/-- The types that are given to type parameters. -/
abbrev Assignment := String → Option TypeExpr

namespace Assignment

/-- The assignment of a list of pairs; of pairs with one name the last one counts. -/
def ofPairs (pairs : List (String × TypeExpr)) : Assignment := fun name =>
  pairs.reverse.lookup name

/-- The assignment that gives arguments to parameters in their order. -/
def ofArguments (parameters : List String) (arguments : List TypeExpr) : Assignment :=
  ofPairs (parameters.zip arguments)

/-- An assignment without the parameters that a method declares for itself. -/
def without (assignment : Assignment) (names : List String) : Assignment := fun name =>
  if name ∈ names then none else assignment name

end Assignment

namespace TypeExpr

mutual

/-- Replaces the type parameters that an assignment gives types to. -/
def subst (assignment : Assignment) : TypeExpr → TypeExpr
  | .void => .void
  | .named head arguments => .named head (substAll assignment arguments)
  | .parameter name => (assignment name).getD (.parameter name)
  | .array element rank => .array (element.subst assignment) rank
  | .pointer pointee => .pointer (pointee.subst assignment)
  | .nullable underlying => .nullable (underlying.subst assignment)
  | .unresolved name => .unresolved name

/-- Replaces type parameters in every one of several references. -/
def substAll (assignment : Assignment) : List TypeExpr → List TypeExpr
  | [] => []
  | argument :: rest => argument.subst assignment :: substAll assignment rest

end

/-- Several references are replaced one by one. -/
theorem substAll_eq_map (assignment : Assignment) (arguments : List TypeExpr) :
    substAll assignment arguments = arguments.map (subst assignment) := by
  induction arguments with
  | nil => rfl
  | cons argument rest ih => simp [substAll, ih]

/-- Replacement keeps the number of arguments. -/
@[simp] theorem length_substAll (assignment : Assignment) (arguments : List TypeExpr) :
    (substAll assignment arguments).length = arguments.length := by
  simp [substAll_eq_map]

end TypeExpr

end Forwarder
