import Forwarder.Declaration
import Forwarder.Diagnostic.MessageFormat

/-!
# Diagnostics

A rule is something that can be wrong with a decorator: an id, a severity, a title, a category and
the format of its messages. A diagnostic is one report of a rule at a place.
-/

namespace Forwarder

/-- How serious a diagnostic is. -/
inductive Severity where
  /-- Generation is not affected. -/
  | warning
  /-- The generated source will not compile. -/
  | error
  deriving DecidableEq, Repr

/-- The name of a severity. -/
def Severity.name : Severity → String
  | .warning => "warning"
  | .error => "error"

/-- A rule. -/
structure Rule where
  /-- The id. -/
  id : String
  /-- The title. -/
  title : String
  /-- The format of messages. -/
  format : String
  /-- The category. -/
  category : String
  /-- The severity. -/
  severity : Severity
  deriving DecidableEq, Repr

namespace Rule

/-- The category of all rules. -/
def commonCategory : String := "Decorgen.GenericDecorator"

/-- A marked type declares no interface. -/
def noInterface : Rule where
  id := "GDG0001"
  title := "Type with the generic decorator attribute must declare an interface."
  format := "Add the interface declaration for the interface to be decorated."
  category := commonCategory
  severity := .warning

/-- Interfaces of a type have the same accessor name. -/
def sharedAccessorName : Rule where
  id := "GDG0002"
  title := "Decorated interfaces share an accessor name."
  format := "Interfaces \x7b0\x7d map to the same accessor name; using \x7b1\x7d"
  category := commonCategory
  severity := .warning

/-- An interface has a member that is not forwarded. -/
def unforwardedMember : Rule where
  id := "GDG0003"
  title := "Decorated interface declares a member that is not forwarded."
  format := "The \x7b0\x7d \x7b1\x7d is not forwarded by \x7b2\x7d; implement it on the decorator"
  category := commonCategory
  severity := .warning

/-- A hook or an accessor has no body. -/
def missingBody : Rule where
  id := "GDG8795"
  title := "Partial member must have an implementation part because it has accessibility modifiers."
  format := "Implement \x7b0\x7d on \x7b1\x7d"
  category := commonCategory
  severity := .error

/-- All rules, in the order of their ids. -/
def all : List Rule := [noInterface, sharedAccessorName, unforwardedMember, missingBody]

end Rule

/-- One report of a rule. -/
structure Diagnostic where
  /-- The id of the rule. -/
  id : String
  /-- The severity of the rule. -/
  severity : Severity
  /-- The title of the rule. -/
  title : String
  /-- The category of the rule. -/
  category : String
  /-- The message. -/
  message : String
  /-- The place. -/
  location : Location
  deriving DecidableEq, Repr

/-- Reports a rule at a place. -/
def Rule.report (rule : Rule) (location : Location) (arguments : List String) : Diagnostic where
  id := rule.id
  severity := rule.severity
  title := rule.title
  category := rule.category
  message := MessageFormat.apply rule.format arguments
  location := location

namespace Diagnostic

/-- Whether a diagnostic is an error. -/
def isError (diagnostic : Diagnostic) : Bool := diagnostic.severity = .error

/-- A diagnostic as one line. -/
def display (diagnostic : Diagnostic) : String :=
  diagnostic.location.display ++ ": " ++ diagnostic.severity.name ++ " " ++ diagnostic.id ++ ": " ++
    diagnostic.message

/-- Whether one diagnostic is to be listed before another: by place, then by rule. -/
def Before (a b : Diagnostic) : Prop :=
  a.location.Before b.location ∨ a.location = b.location ∧ a.id < b.id

instance : DecidableRel Before := fun a b => by
  unfold Before
  infer_instance

end Diagnostic

end Forwarder
