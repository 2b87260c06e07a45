import Forwarder.Failure
import Forwarder.Files

/-!
# Faults of commands

A command fails because of a failure of the generator or a fault of the files. On its way out the
cause is told what was being done, so that a user reads a chain of texts from the whole command
down to the cause.
-/

namespace Forwarder

/-- The innermost reason why a command failed. -/
inductive CommandCause where
  /-- The generator failed. -/
  | failure (inner : Failure)
  /-- A file operation failed. -/
  | fault (inner : FileFault)
  deriving DecidableEq, Repr

/-- The wording of a cause. -/
def CommandCause.message : CommandCause → String
  | .failure inner => inner.message
  | .fault inner => inner.message

/-- Why a command failed. -/
structure CommandFault where
  /-- What was being done, from the outside in. -/
  contexts : List String
  /-- The cause. -/
  cause : CommandCause
  deriving DecidableEq, Repr

namespace CommandFault

/-- The texts of a fault, from the outside in. -/
def chain (fault : CommandFault) : List String := fault.contexts ++ [fault.cause.message]

/-- The causes below the outermost text, each on a line; several of them are numbered. -/
def causeLines : List String → List String
  | [] => []
  | [cause] => ["", "Caused by:", "    " ++ cause]
  | causes => ["", "Caused by:"] ++ causes.mapIdx fun number cause =>
      "    " ++ toString number ++ ": " ++ cause

/-- A fault as it is told to a user. -/
def display (fault : CommandFault) : String :=
  match fault.chain with
  | [] => ""
  | outermost :: causes => "\n".intercalate (("Error: " ++ outermost) :: causeLines causes)

end CommandFault

/-- A step of a command. -/
abbrev CommandT (m : Type → Type) := ExceptT CommandFault m

namespace CommandT

variable {m : Type → Type} [Monad m] {α : Type}

/-- Says what a step does, for the case that it fails. -/
def within (context : String) (step : CommandT m α) : CommandT m α :=
  step.tryCatch fun fault => throw { fault with contexts := context :: fault.contexts }

/-- A step of the generator. -/
def ofFailure : Except Failure α → CommandT m α
  | .ok value => return value
  | .error failure => throw ⟨[], .failure failure⟩

/-- A step on files. -/
def ofFault (operation : m (Except FileFault α)) : CommandT m α :=
  ExceptT.mk do
    match ← operation with
    | .ok value => return .ok value
    | .error fault => return .error ⟨[], .fault fault⟩

end CommandT

end Forwarder
