/-!
# Failures

The ways in which a step of the generator can fail, each with what it has to say, and the one
function that words them.
-/

namespace Forwarder

/-- Why a step failed. -/
inductive Failure where
  /-- The named operation was abandoned because cancellation had been requested. -/
  | cancelled (operation : String)
  /-- The settings could not be loaded. -/
  | configuration (message : String)
  /-- A template could not be registered or rendered. -/
  | template (name message : String)
  /-- A text is no JSON, or its JSON has the wrong form. -/
  | serialization (message : String)
  /-- A symbol cannot be used. -/
  | invalidSymbol (symbol reason : String)
  /-- A field has an unacceptable value. -/
  | validation (field reason : String)
  deriving DecidableEq, Repr

/-- The wording of a failure. -/
def Failure.message : Failure → String
  | .cancelled operation => "Operation cancelled: " ++ operation
  | .configuration message => "Configuration error: " ++ message
  | .template name message => "Template error in '" ++ name ++ "': " ++ message
  | .serialization message => "Serialization error: " ++ message
  | .invalidSymbol symbol reason => "Invalid symbol '" ++ symbol ++ "': " ++ reason
  | .validation field reason => "Validation error in " ++ field ++ ": " ++ reason

/-- Whether a failure is a cancellation. -/
def Failure.isCancellation : Failure → Bool
  | .cancelled _ => true
  | _ => false

end Forwarder
