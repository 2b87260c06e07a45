import Forwarder.Analysis.Signature
import Forwarder.Diagnostic
import Forwarder.Decorator.Derivation

/-!
# Structural analysis

What is missing in the hand-written half of decorators. Every type is checked by itself: it has to
declare an interface, accessor names that had to be told apart are pointed out, and so are members
that are not forwarded; then every accessor and every hook has to be implemented. The report has
the diagnostics of all marked types, ordered by place and rule.
-/

namespace Forwarder

/-- The report of an analysis. -/
structure Analysis where
  /-- The number of types that were looked at. -/
  typeCount : UInt64
  /-- The diagnostics. -/
  diagnostics : List Diagnostic
  deriving DecidableEq, Repr

namespace Analysis

/-- The number of diagnostics of a severity. -/
def severityCount (report : Analysis) (severity : Severity) : Nat :=
  report.diagnostics.countP (·.severity = severity)

/-- Whether there are no errors. -/
def isClean (report : Analysis) : Bool := !report.diagnostics.any (·.isError)

/-- The number of diagnostics of a rule. -/
def ruleCount (report : Analysis) (id : String) : Nat :=
  report.diagnostics.countP (·.id = id)

/-! ## Checking a type -/

/-- Texts separated by commas. -/
def commaList (texts : List String) : String := ", ".intercalate texts

/-- Reports the groups of interfaces whose accessor names met. -/
def collisionReports (type : TypeDecl) (accessors : AccessorChoice) : List Diagnostic :=
  let displays := type.interfaces.map (·.display .dotted)
  accessors.collisions.map fun group =>
    Rule.sharedAccessorName.report type.location
      [commaList (group.filterMap (displays[·]?)),
        commaList (group.filterMap (accessors.names[·]?))]

/-- Reports the members of an interface that are not forwarded. -/
def memberReports (snapshot : Snapshot) (type : TypeDecl) (reference : TypeExpr) :
    List Diagnostic :=
  match snapshot.resolve? reference with
  | none => []
  | some resolved => resolved.members.filterMap fun member =>
    match member with
    | .method _ => none
    | _ => some (Rule.unforwardedMember.report type.location
        [member.kind, reference.display .dotted ++ "." ++ member.name, type.display])

/-- Reports a partial method that has no body. -/
def missingReport (type : TypeDecl) (signature : String) : Diagnostic :=
  Rule.missingBody.report type.location [signature, type.display]

/-- Reports the accessors that are not implemented. -/
def accessorReports (type : TypeDecl) (accessors : AccessorChoice) : List Diagnostic :=
  (type.interfaces.zip accessors.names).filterMap fun (reference, name) =>
    if type.methods.any (·.suppliesAccessor reference name) then none
    else some (missingReport type (reference.display .dotted ++ " " ++ name ++ "()"))

/-- Reports the hooks that are not implemented. -/
def hookReports (type : TypeDecl) : List Diagnostic :=
  Hook.all.filterMap fun hook =>
    if type.methods.any (·.suppliesHook hook) then none
    else some (missingReport type hook.signature)

/-- The diagnostics of a type, whether it is marked or not. -/
def diagnose (settings : Settings) (snapshot : Snapshot) (type : TypeDecl) : List Diagnostic :=
  if type.kind = .unresolved then []
  else if type.interfaces.isEmpty then [Rule.noInterface.report type.location []]
  else
    let accessors := type.accessors settings
    collisionReports type accessors ++ type.interfaces.flatMap (memberReports snapshot type) ++
      accessorReports type accessors ++ hookReports type

/-- The analysis of the marked types of a snapshot. -/
def ofSnapshot (settings : Settings) (snapshot : Snapshot) : Analysis :=
  let marked := snapshot.marked settings.markerAttribute
  { typeCount := marked.length.toUInt64
    diagnostics := (marked.flatMap (diagnose settings snapshot)).mergeSort
      fun a b => ¬ b.Before a }

end Analysis

end Forwarder
