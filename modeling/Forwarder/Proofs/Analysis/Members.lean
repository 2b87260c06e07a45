import Forwarder.Proofs.Analysis.Diagnosis
import Forwarder.Proofs.Derivation
import Forwarder.Proofs.Snapshot.Construction

/-!
# What becomes of the members of interfaces

The derivation of a decorator and the diagnosis of its type walk the declared interfaces each for
itself, and the one gives up at an interface that the other passes over. Whenever there is a
decorator, no member is lost between them and none is counted twice: every method is forwarded, in
the order of the methods, and every property and every event has a diagnostic of its own, in the
order of the interfaces and their members.
-/

namespace Forwarder

open Analysis

variable {settings : Settings} {snapshot : Snapshot} {type : TypeDecl}

/-! ## Accounts -/

/-- The diagnostic for a member of an interface that is not forwarded. -/
def unforwardedReport (type : TypeDecl) (reference : TypeExpr) (kind name : String) : Diagnostic :=
  Rule.unforwardedMember.report type.location
    [kind, reference.display .dotted ++ "." ++ name, type.display]

/-- Each member of an interface is accounted for once and in order: a method by its description,
any other member by its diagnostic. Nothing is left over. -/
inductive Accounted (type : TypeDecl) (reference : TypeExpr) :
    List MemberDecl → List ForwardedMethod → List Diagnostic → Prop where
  /-- There are no members. -/
  | nil : Accounted type reference [] [] []
  /-- A method is forwarded. -/
  | method {members : List MemberDecl} {methods : List ForwardedMethod} {reports : List Diagnostic}
      (declared : MethodDecl) (h : Accounted type reference members methods reports) :
      Accounted type reference (.method declared :: members) (.ofDecl declared :: methods) reports
  /-- A property is reported. -/
  | property {members : List MemberDecl} {methods : List ForwardedMethod}
      {reports : List Diagnostic} (name : String) (propertyType : TypeExpr)
      (h : Accounted type reference members methods reports) :
      Accounted type reference (.property name propertyType :: members) methods
        (unforwardedReport type reference "property" name :: reports)
  /-- An event is reported. -/
  | event {members : List MemberDecl} {methods : List ForwardedMethod}
      {reports : List Diagnostic} (name : String) (eventType : TypeExpr)
      (h : Accounted type reference members methods reports) :
      Accounted type reference (.event name eventType :: members) methods
        (unforwardedReport type reference "event" name :: reports)

/-- Each declared interface of a type leads to a declaration, whose members are accounted for by the
methods of the interface at the same position and by the next diagnostics. -/
inductive AllAccounted (snapshot : Snapshot) (type : TypeDecl) :
    List TypeExpr → List InterfaceDecl → List DecoratedInterface → List Diagnostic → Prop where
  /-- There are no interfaces. -/
  | nil : AllAccounted snapshot type [] [] [] []
  /-- The members of one interface come before those of the others. -/
  | interface {reference : TypeExpr} {references : List TypeExpr} {constructed : ConstructedType}
      {declaration : InterfaceDecl} {declarations : List InterfaceDecl}
      {decorated : DecoratedInterface} {others : List DecoratedInterface}
      {reports later : List Diagnostic} (hreference : reference.asConstructed? = some constructed)
      (hdeclaration : snapshot.declarationOf? constructed = some declaration)
      (hname : decorated.fullName = reference.display .full)
      (hmembers : Accounted type reference (declaration.membersOf constructed) decorated.methods
        reports)
      (hothers : AllAccounted snapshot type references declarations others later) :
      AllAccounted snapshot type (reference :: references) (declaration :: declarations)
        (decorated :: others) (reports ++ later)

theorem Accounted.length_eq {reference : TypeExpr} {members : List MemberDecl}
    {methods : List ForwardedMethod} {reports : List Diagnostic}
    (h : Accounted type reference members methods reports) :
    methods.length + reports.length = members.length := by
  induction h with
  | nil => rfl
  | method _ _ ih | property _ _ _ ih | event _ _ _ ih =>
    simp only [List.length_cons]
    omega

/-- There are as many methods and diagnostics together as there are declared members. -/
theorem AllAccounted.length_eq {references : List TypeExpr} {declarations : List InterfaceDecl}
    {interfaces : List DecoratedInterface} {reports : List Diagnostic}
    (h : AllAccounted snapshot type references declarations interfaces reports) :
    (interfaces.flatMap (·.methods)).length + reports.length =
      (declarations.flatMap (·.members)).length := by
  induction h with
  | nil => rfl
  | interface _ _ _ hmembers _ ih =>
    have hlength := hmembers.length_eq
    rw [InterfaceDecl.membersOf, List.length_map] at hlength
    simp only [List.flatMap_cons, List.length_append]
    omega

/-! ## Both walks -/

end Forwarder
